import StarSurvey.Json.Value
import StarSurvey.Proofs.Decimal.Shortest
import StarSurvey.Proofs.Json.Numeral

/-!
# Numbers that are written

- **Digits** (`digitsValue_encode`): rows of digits count the same as characters and as bytes.
- **Layouts** (`spell`): the numeral that is the text of a decimal. It is well-formed, its digits and
  their power of ten are those of the decimal, but for a zero behind an integer (`scaled_spell`), and
  its exact value is that of the decimal (`exact_spell`).
- **Range** (`exists_magnitude_shortest`): the text of a finite double is in the range that is read.
- **Reading** (`reread`): the double that the text of a double is read as.
- **Numbers** (`exists_numeral_float`, `exists_numeral_count`): what is written for a number is the
  text of a numeral that has a value.
-/

namespace StarSurvey.Json

open StarSurvey.Text (encode AllDigits allDigits_toDigits allDigits_replicate)
open StarSurvey.Decimal

/-! ## Digits -/

variable {cs : List Char}

theorem encode_eq_map (h : AllDigits cs) : encode cs = cs.map fun c => c.toNat.toUInt8 := by
  induction cs with
  | nil => rfl
  | cons c cs ih =>
    rw [Text.encode_cons_of_lt (Text.lt_of_isDigit (h c List.mem_cons_self)),
      ih fun d hd => h d (List.mem_cons_of_mem c hd)]
    rfl

theorem toNat_toUInt8 {c : Char} (h : c.isDigit = true) : c.toNat.toUInt8.toNat = c.toNat :=
  UInt8.toNat_ofNat_of_lt' ((Text.lt_of_isDigit h).trans (by decide))

theorem isDigit_encode (h : AllDigits cs) : ∀ b ∈ encode cs, isDigit b = true := by
  rw [encode_eq_map h]
  intro b hb
  obtain ⟨c, hc, rfl⟩ := List.mem_map.mp hb
  obtain ⟨hlow, hhigh⟩ := Char.isDigit_iff_toNat.mp (h c hc)
  simp only [isDigit, Bool.and_eq_true, decide_eq_true_eq, UInt8.le_iff_toNat_le,
    toNat_toUInt8 (h c hc)]
  exact ⟨hlow, hhigh⟩

theorem isDigits_encode (h : AllDigits cs) (hne : cs ≠ []) : IsDigits (encode cs) := by
  refine ⟨?_, isDigit_encode h⟩
  rw [encode_eq_map h]
  simpa using hne

theorem length_encode (h : AllDigits cs) : (encode cs).length = cs.length := by
  rw [encode_eq_map h, List.length_map]

/-- Rows of digits count the same as bytes. -/
theorem digitsValue_encode (h : AllDigits cs) : digitsValue (encode cs) = Nat.ofDigitChars 10 cs 0 := by
  rw [encode_eq_map h, digitsValue, List.foldl_map, Nat.ofDigitChars]
  generalize 0 = n
  induction cs generalizing n with
  | nil => rfl
  | cons c cs ih =>
    rw [List.foldl_cons, List.foldl_cons, toNat_toUInt8 (h c List.mem_cons_self)]
    exact ih (fun d hd => h d (List.mem_cons_of_mem c hd)) _

/-! ## Spellings -/

/-- A number as characters: the parts of a numeral. -/
structure Spelling where
  negative : Bool
  whole : List Char
  fraction : List Char
  /-- Whether the exponent is negative, and its digits. -/
  exponent : Option (Bool × List Char)

namespace Spelling

variable {s : Spelling}

/-- The sign of a number. -/
def sign (negative : Bool) : List Char := if negative then ['-'] else []

/-- The characters in a row. -/
def chars (s : Spelling) : List Char :=
  sign s.negative ++ (s.whole ++ ((if s.fraction = [] then [] else '.' :: s.fraction) ++
    s.exponent.elim [] fun x => 'e' :: (if x.1 then '-' else '+') :: x.2))

/-- The numeral that is spelled. -/
def numeral (s : Spelling) : Numeral :=
  ⟨s.negative, encode s.whole, encode s.fraction, s.exponent.map fun x => ⟨x.1, encode x.2⟩⟩

theorem encode_ne_nil {cs : List Char} (h : cs ≠ []) : encode cs ≠ [] := by
  obtain ⟨c, more, rfl⟩ := List.exists_cons_of_ne_nil h
  rw [Text.encode_cons]
  exact List.append_ne_nil_of_left_ne_nil String.utf8EncodeChar_ne_nil _

/-- The bytes of a spelling are the text of its numeral. -/
theorem encode_chars (s : Spelling) : encode s.chars = s.numeral.text := by
  obtain ⟨negative, whole, fraction, exponent⟩ := s
  have hsign : encode (sign negative) = if negative then [0x2D] else [] := by
    cases negative <;> rfl
  have hexponent : encode (exponent.elim [] fun x => 'e' :: (if x.1 then '-' else '+') :: x.2) =
      (exponent.map fun x => (⟨x.1, encode x.2⟩ : Exponent)).elim [] Exponent.text := by
    rcases exponent with _ | ⟨_ | _, ds⟩ <;> rfl
  show encode (sign negative ++ (whole ++ ((if fraction = [] then [] else '.' :: fraction) ++
      exponent.elim [] fun x => 'e' :: (if x.1 then '-' else '+') :: x.2))) =
    (if negative then [0x2D] else []) ++ (encode whole ++
      ((if encode fraction = [] then [] else 0x2E :: encode fraction) ++
        (exponent.map fun x => (⟨x.1, encode x.2⟩ : Exponent)).elim [] Exponent.text))
  rw [Text.encode_append, Text.encode_append, Text.encode_append, hsign, hexponent]
  by_cases hnil : fraction = []
  · rw [if_pos hnil, hnil]
    rfl
  · rw [if_neg hnil, if_neg (encode_ne_nil hnil)]
    rfl

/-- A spelling with digits in all the right places. -/
structure Proper (s : Spelling) : Prop where
  whole : AllDigits s.whole
  ne_nil : s.whole ≠ []
  leading : s.whole.head? = some '0' → s.whole = ['0']
  fraction : AllDigits s.fraction
  exponent : ∀ x, s.exponent = some x → AllDigits x.2 ∧ x.2 ≠ []

theorem Proper.wellFormed (h : s.Proper) : s.numeral.WellFormed := by
  refine ⟨isDigits_encode h.whole h.ne_nil, ?_, isDigit_encode h.fraction, ?_⟩
  · intro hhead
    obtain ⟨c, more, hc⟩ := List.exists_cons_of_ne_nil h.ne_nil
    have hdigit := h.whole c (hc ▸ List.mem_cons_self)
    have hencode : encode s.whole = c.toNat.toUInt8 :: encode more := by
      rw [hc, Text.encode_cons_of_lt (Text.lt_of_isDigit hdigit)]
    have hbyte : c.toNat.toUInt8 = 0x30 := by
      have hhead' : (encode s.whole).head? = some 0x30 := hhead
      rw [hencode] at hhead'
      exact Option.some.inj hhead'
    have hzero : c = '0' := by
      apply Char.toNat_inj.mp
      rw [← toNat_toUInt8 hdigit, hbyte]
      rfl
    show encode s.whole = [0x30]
    rw [h.leading (by rw [hc, hzero]; rfl)]
    rfl
  · intro x hx
    obtain ⟨y, hy, rfl⟩ := Option.map_eq_some_iff.mp hx
    exact isDigits_encode (h.exponent y hy).1 (h.exponent y hy).2

/-- What the exponent adds. -/
def shift (s : Spelling) : ℤ :=
  match s.exponent with
  | none => 0
  | some x => if x.1 then -(Nat.ofDigitChars 10 x.2 0 : ℤ) else Nat.ofDigitChars 10 x.2 0

/-- The digits without the point, and the power of ten that goes with them. -/
def scaled (s : Spelling) : ℕ × ℤ :=
  (Nat.ofDigitChars 10 (s.whole ++ s.fraction) 0, s.shift - s.fraction.length)

theorem Proper.scaled_eq (h : s.Proper) :
    s.scaled = (digitsValue (s.numeral.whole ++ s.numeral.fraction),
      s.numeral.shift - s.numeral.fraction.length) := by
  obtain ⟨negative, whole, fraction, exponent⟩ := s
  have hshift : (numeral ⟨negative, whole, fraction, exponent⟩).shift =
      shift ⟨negative, whole, fraction, exponent⟩ := by
    rcases exponent with _ | x
    · rfl
    · simp only [Numeral.shift, shift, numeral, Option.map_some,
        digitsValue_encode (h.exponent x rfl).1]
  rw [hshift]
  simp only [numeral]
  rw [← Text.encode_append, digitsValue_encode (h.whole.append h.fraction), length_encode h.fraction]
  rfl

theorem Proper.exact (h : s.Proper) : s.numeral.exact = s.scaled.1 * 10 ^ s.scaled.2 := by
  rw [h.scaled_eq]
  rfl

end Spelling

/-! ## Layouts -/

/-- The digits with the point after the first `point` of them. -/
def positional (negative : Bool) (ds : List Char) (point : ℤ) : Spelling :=
  if point ≤ 0 then ⟨negative, ['0'], List.replicate (-point).toNat '0' ++ ds, none⟩
  else
    ⟨negative, ds.take point.toNat ++ List.replicate (point.toNat - ds.length) '0',
      if (ds.drop point.toNat).isEmpty then ['0'] else ds.drop point.toNat, none⟩

/-- The digits with the exponent of the leading one. -/
def scientific (negative : Bool) (ds : List Char) (lead : ℤ) : Spelling :=
  ⟨negative, ds.take 1, ds.drop 1, some (lead < 0, Nat.toDigits 10 lead.natAbs)⟩

/-- The spelling of a decimal. -/
def spell (l : Layout) (negative : Bool) (d : Digits) : Spelling :=
  if l.least ≤ d.lead && d.lead < l.beyond then
    positional negative (Nat.toDigits 10 d.digits) (d.lead + 1)
  else scientific negative (Nat.toDigits 10 d.digits) d.lead

section Rows

variable {negative : Bool} {ds : List Char}

theorem chars_positional (hds : ds ≠ []) (point : ℤ) :
    (positional negative ds point).chars = Spelling.sign negative ++ Layout.positional ds point := by
  by_cases hpoint : point ≤ 0
  · rw [positional, if_pos hpoint, Layout.positional, if_pos hpoint, Spelling.chars,
      if_neg (by simp [hds])]
    simp
  · rw [positional, if_neg hpoint, Layout.positional, if_neg hpoint, Spelling.chars]
    dsimp only
    rw [if_neg]
    · simp
    · split
      · exact List.cons_ne_nil _ _
      · rename_i hdrop
        exact fun hnil => hdrop (by rw [hnil]; rfl)

theorem chars_scientific (hds : ds ≠ []) (lead : ℤ) :
    (scientific negative ds lead).chars = Spelling.sign negative ++ Layout.scientific ds lead := by
  obtain ⟨d, more, rfl⟩ := List.exists_cons_of_ne_nil hds
  cases more with
  | nil => simp [scientific, Layout.scientific, Spelling.chars]
  | cons e more => simp [scientific, Layout.scientific, Spelling.chars]

/-- The text of a decimal is its spelling. -/
theorem chars_spell (l : Layout) (d : Digits) :
    (spell l negative d).chars = Spelling.sign negative ++ l.write d := by
  have hne : Nat.toDigits 10 d.digits ≠ [] := Nat.toDigits_ne_nil
  simp only [spell, Layout.write]
  show Spelling.chars (if l.least ≤ d.lead && d.lead < l.beyond then _ else _) = _ ++
    if l.least ≤ d.lead && d.lead < l.beyond then Layout.positional _ (d.lead + 1)
    else Layout.scientific _ d.lead
  split
  · exact chars_positional hne _
  · exact chars_scientific hne _

/-- Of digits without a leading zero, a positional number has none either. -/
theorem proper_positional (hds : AllDigits ds) (hne : ds ≠ []) {point : ℤ}
    (hzero : ds.head? = some '0' → ds = ['0'] ∧ point ≤ 1) :
    (positional negative ds point).Proper := by
  unfold positional
  split
  · exact ⟨by simp [AllDigits], List.cons_ne_nil _ _, fun _ => rfl,
      (allDigits_replicate _).append hds, fun _ h => nomatch h⟩
  · rename_i hpoint
    obtain ⟨c, more, rfl⟩ := List.exists_cons_of_ne_nil hne
    obtain ⟨p, hp⟩ : ∃ p, point.toNat = p + 1 := ⟨point.toNat - 1, by omega⟩
    refine ⟨(hds.take _).append (allDigits_replicate _), ?_, ?_, ?_, fun _ h => nomatch h⟩
    · rw [hp]
      exact List.cons_ne_nil _ _
    · intro hhead
      rw [hp] at hhead
      obtain ⟨hsingle, hle⟩ := hzero hhead
      obtain rfl : p = 0 := by omega
      rw [hsingle, hp]
      rfl
    · show AllDigits (if _ then _ else _)
      split
      · exact allDigits_replicate 1
      · exact hds.drop _

theorem proper_scientific (hds : AllDigits ds) (hne : ds ≠ []) (lead : ℤ) :
    (scientific negative ds lead).Proper := by
  obtain ⟨c, more, rfl⟩ := List.exists_cons_of_ne_nil hne
  refine ⟨hds.take 1, List.cons_ne_nil _ _, ?_, hds.drop 1, ?_⟩
  · intro hhead
    have hc : some c = some '0' := hhead
    cases hc
    rfl
  · intro x hx
    cases hx
    exact ⟨allDigits_toDigits _, Nat.toDigits_ne_nil⟩

/-- Behind the digits of an integer there is a zero. -/
theorem scaled_positional (negative : Bool) (ds : List Char) (point : ℤ) :
    (positional negative ds point).scaled =
      if ds.length ≤ point.toNat ∧ 0 < point then
        (Nat.ofDigitChars 10 ds 0 * 10 ^ (point.toNat - ds.length + 1), -1)
      else (Nat.ofDigitChars 10 ds 0, point - ds.length) := by
  by_cases hpoint : point ≤ 0
  · have hfew : ¬ (ds.length ≤ point.toNat ∧ 0 < point) := by omega
    rw [if_neg hfew, positional, if_pos hpoint]
    simp only [Spelling.scaled, Spelling.shift, Nat.ofDigitChars_append,
      Nat.ofDigitChars_replicate_zero, Nat.ofDigitChars_cons, Nat.ofDigitChars_nil,
      List.length_append, List.length_replicate, Prod.mk.injEq]
    constructor
    · simp
    · omega
  · rw [positional, if_neg hpoint]
    by_cases hlong : point.toNat < ds.length
    · have hdrop : (ds.drop point.toNat).isEmpty = false := by
        simpa using hlong
      have hfew : ¬ (ds.length ≤ point.toNat ∧ 0 < point) := by omega
      rw [if_neg hfew]
      simp only [Spelling.scaled, Spelling.shift, hdrop, Bool.false_eq_true, if_false]
      rw [Nat.sub_eq_zero_of_le hlong.le, List.replicate_zero, List.append_nil,
        List.take_append_drop, List.length_drop, Prod.mk.injEq]
      exact ⟨rfl, by omega⟩
    · have hdrop : (ds.drop point.toNat) = [] := List.drop_eq_nil_of_le (by omega)
      have hall : ds.length ≤ point.toNat ∧ 0 < point := by omega
      rw [if_pos hall]
      simp only [Spelling.scaled, Spelling.shift, hdrop, List.isEmpty_nil, if_true]
      rw [List.take_of_length_le (by omega), Nat.ofDigitChars_append, Nat.ofDigitChars_append,
        Nat.ofDigitChars_replicate_zero, Nat.ofDigitChars_cons, Nat.ofDigitChars_nil, Prod.mk.injEq]
      constructor
      · simp
        ring
      · rfl

theorem scaled_scientific (negative : Bool) {ds : List Char} (hne : ds ≠ []) (lead : ℤ) :
    (scientific negative ds lead).scaled = (Nat.ofDigitChars 10 ds 0, lead + 1 - ds.length) := by
  have hlength := List.length_pos_iff.mpr hne
  simp only [scientific, Spelling.scaled, Spelling.shift, List.take_append_drop, List.length_drop,
    Nat.ofDigitChars_ten_toDigits, decide_eq_true_eq, Prod.mk.injEq, true_and]
  split <;> omega

end Rows

variable {l : Layout} {negative : Bool} {d : Digits}

theorem proper_spell (hd : d.digits = 0 → d.exponent = 0) : (spell l negative d).Proper := by
  have hdigits := allDigits_toDigits d.digits
  have hne : Nat.toDigits 10 d.digits ≠ [] := Nat.toDigits_ne_nil
  unfold spell
  split
  · refine proper_positional hdigits hne fun hhead => ?_
    obtain ⟨more, hmore⟩ := List.head?_eq_some_iff.mp hhead
    have hzero := Text.eq_zero_of_toDigits_eq hmore
    rw [Digits.lead, hd hzero, hzero]
    exact ⟨rfl, le_refl _⟩
  · exact proper_scientific hdigits hne _

/-- The digits of a decimal as they are written, and the power of ten that goes with them. -/
def written (l : Layout) (d : Digits) : ℕ × ℤ :=
  if l.least ≤ d.lead && d.lead < l.beyond && 0 ≤ d.exponent then
    (d.digits * 10 ^ (d.exponent.toNat + 1), -1)
  else (d.digits, d.exponent)

theorem scaled_spell (l : Layout) (negative : Bool) (d : Digits) :
    (spell l negative d).scaled = written l d := by
  have hlength := Nat.length_toDigits_pos (b := 10) (n := d.digits)
  have hlead : d.lead = ((Nat.toDigits 10 d.digits).length : ℤ) - 1 + d.exponent := rfl
  unfold spell written
  cases hpositional : (decide (l.least ≤ d.lead) && decide (d.lead < l.beyond)) with
  | true =>
    simp only [if_true, Bool.true_and, decide_eq_true_eq]
    rw [scaled_positional, Nat.ofDigitChars_ten_toDigits]
    by_cases he : 0 ≤ d.exponent
    · rw [if_pos (by omega), if_pos he]
      congr 3
      omega
    · rw [if_neg (by omega), if_neg he]
      congr 1
      omega
  | false =>
    simp only [Bool.false_eq_true, if_false, Bool.false_and]
    rw [scaled_scientific _ Nat.toDigits_ne_nil, Nat.ofDigitChars_ten_toDigits]
    congr 1
    omega

/-- What is written stands for the decimal. -/
theorem written_value (l : Layout) (d : Digits) :
    ((written l d).1 : ℚ) * 10 ^ (written l d).2 = d.value := by
  unfold written
  split
  · rename_i h
    simp only [Bool.and_eq_true, decide_eq_true_eq] at h
    have hexp : (10 : ℚ) ^ d.exponent = 10 ^ d.exponent.toNat := by
      rw [← zpow_natCast, Int.toNat_of_nonneg h.2]
    rw [Digits.value, hexp, zpow_neg_one]
    push_cast
    rw [pow_succ]
    field_simp
  · rfl

/-- A spelled decimal has its value. -/
theorem exact_spell (h : (spell l negative d).Proper) :
    (spell l negative d).numeral.exact = d.value := by
  rw [h.exact, scaled_spell, written_value]

/-! ## Range -/

/-- The digits before the point are few. -/
theorem length_whole_spell : (spell .data negative d).whole.length ≤ 16 := by
  unfold spell
  split
  · rename_i hlead
    simp only [Bool.and_eq_true, decide_eq_true_eq] at hlead
    have hbeyond : d.lead < 16 := hlead.2
    unfold positional
    split
    · simp
    · simp only [List.length_append, List.length_take, List.length_replicate]
      omega
  · simp only [scientific, List.length_take]
    omega

theorem digitsValue_whole_lt (h : (spell .data negative d).Proper) :
    digitsValue (spell .data negative d).numeral.whole < UInt64.size := by
  have hlt := digitsValue_lt (isDigit_encode h.whole)
  rw [length_encode h.whole] at hlt
  exact (hlt.trans_le (Nat.pow_le_pow_right (by decide) length_whole_spell)).trans (by decide)

theorem digitsBeyond_spell (hlead : d.lead.natAbs ≤ maxExponent) {x : Exponent}
    (hx : (spell l negative d).numeral.exponent = some x) : digitsBeyond 0 x.digits = none := by
  unfold spell at hx
  split at hx
  · unfold positional at hx
    split at hx <;> cases hx
  · cases hx
    apply digitsBeyond_eq_none
    show digitsValue _ ≤ maxExponent
    rw [digitsValue_encode (allDigits_toDigits _), Nat.ofDigitChars_ten_toDigits]
    exact hlead

theorem not_isWhole_spell : (spell l negative d).numeral.isWhole = false := by
  have hne : Nat.toDigits 10 d.digits ≠ [] := Nat.toDigits_ne_nil
  unfold spell
  split
  · have hfraction : (positional negative (Nat.toDigits 10 d.digits) (d.lead + 1)).fraction ≠ [] := by
      unfold positional
      split
      · simp [hne]
      · show (if _ then _ else _) ≠ []
        split
        · exact List.cons_ne_nil _ _
        · rename_i hdrop
          exact fun hnil => hdrop (by rw [hnil]; rfl)
    have hbytes := Spelling.encode_ne_nil hfraction
    rw [Numeral.isWhole, Bool.and_eq_false_iff]
    exact .inl (List.isEmpty_eq_false_iff.mpr hbytes)
  · simp [Numeral.isWhole, scientific, Spelling.numeral]

theorem value_spell {f : Float} (h : (spell l negative d).numeral.magnitude = .ok f) :
    (spell l negative d).numeral.value = .ok (.float (if negative then -f else f)) := by
  have hinteger : (spell l negative d).numeral.integer? = none := by
    rw [Numeral.integer?, not_isWhole_spell]
    rfl
  have hnegative : (spell l negative d).numeral.negative = negative := by
    unfold spell positional
    split
    · split <;> rfl
    · rfl
  rw [Numeral.value, hinteger, h, hnegative]
  rfl

theorem two_pow_lt_ten_pow : (2 : ℚ) ^ 1076 < 10 ^ 400 := by
  have h : 2 ^ 1076 < 10 ^ 400 := by decide +kernel
  exact_mod_cast h

/-- The leading digit of a double in range has a small exponent. -/
theorem lead_bounds (hd : 0 < d.digits) (hlow : (2 : ℚ) ^ (-1076 : ℤ) ≤ d.value)
    (hhigh : d.value ≤ Double.overflow) : d.lead.natAbs ≤ maxExponent := by
  have htop : d.lead < 309 := by
    rw [← zpow_lt_zpow_iff_right₀ (show (1 : ℚ) < 10 by norm_num)]
    exact (Digits.ten_zpow_lead_le hd).trans_lt (hhigh.trans_lt overflow_lt_ten_pow)
  have hbottom : -400 < d.lead + 1 := by
    rw [← zpow_lt_zpow_iff_right₀ (show (1 : ℚ) < 10 by norm_num)]
    refine lt_of_le_of_lt ?_ (hlow.trans_lt (Digits.lt_ten_zpow_lead d))
    rw [zpow_neg, zpow_neg]
    exact inv_anti₀ (by positivity) two_pow_lt_ten_pow.le
  rw [maxExponent]
  omega

/-- Half a unit above a double is not beyond the overflow. -/
theorem half_unit_le_overflow {m : ℕ} {q : ℤ} (hc : Double.Canonical m q) (hq : q ≤ 971) :
    ((m : ℚ) + 1 / 2) * 2 ^ q ≤ Double.overflow := by
  have hm : (m : ℚ) + 1 ≤ 2 ^ 53 := by exact_mod_cast hc.short
  have hpos := Double.two_zpow_pos 970
  calc ((m : ℚ) + 1 / 2) * 2 ^ q ≤ (2 ^ 53 - 1 / 2) * 2 ^ (971 : ℤ) :=
        mul_le_mul (by linarith) (Double.two_zpow_le hq) (Double.two_zpow_pos q).le (by norm_num)
    _ = Double.overflow := by
      rw [Double.two_zpow_971, Double.overflow]
      ring

/-- All but the two greatest doubles stay below the overflow by the share of the roundings. -/
theorem mul_slack_lt {m : ℕ} {q : ℤ} (hc : Double.Canonical m q) (hq : q ≤ 971)
    (hmax : q = 971 → m + 3 ≤ 2 ^ 53) : ((m : ℚ) + 1 / 2) * 2 ^ q * slack < Double.overflow := by
  have hpos := Double.two_zpow_pos 970
  by_cases htop : q = 971
  · have hm : (m : ℚ) + 3 ≤ 2 ^ 53 := by exact_mod_cast hmax htop
    have hnum : ((m : ℚ) + 1 / 2) * slack * 2 < 2 ^ 54 - 1 := by
      have := mul_le_mul_of_nonneg_right (show (m : ℚ) + 1 / 2 ≤ 2 ^ 53 - 5 / 2 by linarith)
        (zero_lt_one.trans one_lt_slack).le
      refine (mul_le_mul_of_nonneg_right this zero_le_two).trans_lt ?_
      norm_num [slack]
    rw [htop, Double.two_zpow_971, Double.overflow]
    generalize (2 : ℚ) ^ (970 : ℤ) = top at hpos ⊢
    calc ((m : ℚ) + 1 / 2) * (2 * top) * slack = ((m : ℚ) + 1 / 2) * slack * 2 * top := by ring
      _ < (2 ^ 54 - 1) * top := mul_lt_mul_of_pos_right hnum hpos
  · have hm : (m : ℚ) + 1 ≤ 2 ^ 53 := by exact_mod_cast hc.short
    have hnum : ((m : ℚ) + 1 / 2) * slack < 2 ^ 54 - 1 := by
      have := mul_le_mul_of_nonneg_right (show (m : ℚ) + 1 / 2 ≤ 2 ^ 53 by linarith)
        (zero_lt_one.trans one_lt_slack).le
      refine this.trans_lt ?_
      norm_num [slack]
    have hpow := Double.two_zpow_le (show q ≤ 970 by omega)
    rw [Double.overflow]
    generalize (2 : ℚ) ^ (970 : ℤ) = top at hpos hpow ⊢
    calc ((m : ℚ) + 1 / 2) * 2 ^ q * slack ≤ ((m : ℚ) + 1 / 2) * top * slack := by
          have := one_lt_slack
          gcongr
      _ = ((m : ℚ) + 1 / 2) * slack * top := by ring
      _ < (2 ^ 54 - 1) * top := mul_lt_mul_of_pos_right hnum hpos

/-- The two greatest doubles are tried out. -/
theorem magnitude_greatest : ∀ negative : Bool, ∀ m ∈ [2 ^ 53 - 2, 2 ^ 53 - 1],
    (spell .data negative (Digits.shortest m 971)).numeral.magnitude.toOption.isSome = true := by
  decide +kernel

/-- The text of a positive double has an exponent that is read. -/
theorem digitsBeyond_shortest {m : ℕ} (hm : 0 < m) {q : ℤ} (hc : Double.Canonical m q)
    (hq : q ≤ 971) {x : Exponent}
    (hx : (spell .data negative (Digits.shortest m q)).numeral.exponent = some x) :
    digitsBeyond 0 x.digits = none := by
  obtain ⟨hlow, hhigh⟩ := Digits.bounds_shortest hm hc.short q
  refine digitsBeyond_spell (lead_bounds (Digits.inside_shortest hm hc.short q).1.pos
    ((Double.two_zpow_le (by have := hc.least; omega)).trans hlow)
    (hhigh.trans (half_unit_le_overflow hc hq))) hx

theorem proper_shortest {m : ℕ} (hm : 0 < m) (hshort : m < 2 ^ 53) (q : ℤ) (negative : Bool) :
    (spell .data negative (Digits.shortest m q)).Proper :=
  proper_spell fun h => absurd h (Digits.inside_shortest hm hshort q).1.pos.ne'

/-- The text of a positive double has a magnitude. -/
theorem exists_magnitude_shortest {m : ℕ} (hm : 0 < m) {q : ℤ} (hc : Double.Canonical m q)
    (hq : q ≤ 971) (negative : Bool) :
    ∃ f, (spell .data negative (Digits.shortest m q)).numeral.magnitude = .ok f := by
  have hproper := proper_shortest hm hc.short q negative
  obtain ⟨-, hhigh⟩ := Digits.bounds_shortest hm hc.short q
  by_cases hmax : q = 971 → m + 3 ≤ 2 ^ 53
  · have hslack := (mul_le_mul_of_nonneg_right hhigh
      (zero_lt_one.trans one_lt_slack).le).trans_lt (mul_slack_lt hc hq hmax)
    exact Numeral.exists_magnitude_of_lt _ (digitsValue_whole_lt hproper)
      (fun x hx => digitsBeyond_shortest hm hc hq hx)
      (by rwa [exact_spell hproper])
  -- so near to the overflow the bound on the roundings is too coarse
  · obtain ⟨rfl, hm3⟩ := Classical.not_imp.mp hmax
    have hshort := hc.short
    have hmem : m ∈ [2 ^ 53 - 2, 2 ^ 53 - 1] := by
      simp only [List.mem_cons, List.not_mem_nil, or_false]
      omega
    have hsome := magnitude_greatest negative m hmem
    cases hf : (spell .data negative (Digits.shortest m 971)).numeral.magnitude with
    | error back =>
      rw [hf] at hsome
      cases hsome
    | ok f => exact ⟨f, rfl⟩

/-! ## What is read -/

/-- The digits of a double that are written fit 64 bits. -/
theorem written_lt {d : Digits} (hd : d.digits ≤ 2 * 10 ^ 17) :
    (written .data d).1 < UInt64.size := by
  unfold written
  split
  · rename_i h
    simp only [Bool.and_eq_true, decide_eq_true_eq] at h
    obtain ⟨⟨-, hlead⟩, he⟩ := h
    have hvalue : d.value = (d.digits * 10 ^ d.exponent.toNat : ℕ) := by
      rw [Digits.value]
      push_cast
      rw [← zpow_natCast, Int.toNat_of_nonneg he]
    have hlt := d.lt_ten_zpow_lead.trans_le
      (zpow_le_zpow_right₀ (by norm_num) (show d.lead + 1 ≤ 16 from hlead))
    rw [hvalue] at hlt
    have hlt' : d.digits * 10 ^ d.exponent.toNat < 10 ^ 16 := by exact_mod_cast hlt
    have hsize : (10 : ℕ) ^ 17 < UInt64.size := by decide
    calc d.digits * 10 ^ (d.exponent.toNat + 1) = d.digits * 10 ^ d.exponent.toNat * 10 := by
          rw [pow_succ, mul_assoc]
      _ < UInt64.size := by omega
  · exact hd.trans_lt (by decide)

/-- All the digits are read, and scaled by their power of ten. -/
theorem magnitude_shortest {m : ℕ} (hm : 0 < m) {q : ℤ} (hc : Double.Canonical m q)
    (hq : q ≤ 971) (negative : Bool) :
    (spell .data negative (Digits.shortest m q)).numeral.magnitude =
      (scale (written .data (Digits.shortest m q)).1
        (written .data (Digits.shortest m q)).2).elim (.error 0) .ok := by
  have hscaled := (proper_shortest hm hc.short q negative).scaled_eq
  rw [scaled_spell] at hscaled
  have hlt := written_lt (Digits.inside_shortest hm hc.short q).2
  rw [Numeral.magnitude_eq _ fun x hx => digitsBeyond_shortest hm hc hq hx,
    Numeral.significand_of_lt _ (by rwa [hscaled] at hlt), hscaled, neg_add_eq_sub]

/-- The magnitude that is read from the text of a positive double. -/
def rereadMagnitude (m : ℕ) (q : ℤ) : Float :=
  (scale (written .data (Digits.shortest m q)).1 (written .data (Digits.shortest m q)).2).getD 0

/-- The double that is read from the text of a finite double: its digits, taken for an integer, are
rounded to a double first, and the quotient or product with a power of ten is rounded again. -/
def reread (x : Float) : Float :=
  match Binary64.ofFloat x with
  | .finite negative m q =>
    if m = 0 then x else if negative then -rereadMagnitude m q else rereadMagnitude m q
  | _ => x

theorem value_shortest {m : ℕ} (hm : 0 < m) {q : ℤ} (hc : Double.Canonical m q) (hq : q ≤ 971)
    (negative : Bool) : (spell .data negative (Digits.shortest m q)).numeral.value =
      .ok (.float (if negative then -rereadMagnitude m q else rereadMagnitude m q)) := by
  obtain ⟨f, hf⟩ := exists_magnitude_shortest hm hc hq negative
  have hscale : rereadMagnitude m q = f := by
    have hf' := hf
    rw [magnitude_shortest hm hc hq] at hf'
    unfold rereadMagnitude
    cases hs : scale (written .data (Digits.shortest m q)).1
        (written .data (Digits.shortest m q)).2 with
    | none => rw [hs] at hf'; cases hf'
    | some g => rw [hs] at hf'; cases hf'; rfl
  rw [value_spell hf, hscale]

/-! ## Numbers -/

/-- The text of a finite double is the text of a numeral, whose value is what is read. -/
theorem exists_numeral_float {x : Float} (hx : x.isFinite = true) :
    ∃ n : Numeral, n.WellFormed ∧ n.value = .ok (.float (reread x)) ∧
      encode (Number.float x).chars = n.text := by
  obtain ⟨negative, m, q, hof, hc, hq⟩ := Double.ofFloat_of_isFinite hx
  have hchars : (Number.float x).chars = Spelling.sign negative ++
      if m = 0 then ['0', '.', '0'] else Layout.data.write (Digits.shortest m q) := by
    show (if x.isFinite then _ else _) = _
    rw [if_pos hx, Layout.text, hof]
    cases negative <;> simp [Spelling.sign]
  have hreread : reread x = if m = 0 then x else
      if negative then -rereadMagnitude m q else rereadMagnitude m q := by
    rw [reread, hof]
  rw [hchars, hreread]
  by_cases hm : m = 0
  · rw [if_pos hm, if_pos hm]
    subst hm
    have hproper : (⟨negative, ['0'], ['0'], none⟩ : Spelling).Proper :=
      ⟨allDigits_replicate 1, List.cons_ne_nil _ _, fun _ => rfl, allDigits_replicate 1,
        fun _ h => nomatch h⟩
    have hq : q = -1074 := hc.full.resolve_left (by norm_num)
    have hzero : x = if negative then -0 else 0 := by
      refine Double.eq_of_ofFloat hof ?_
      rw [hq]
      cases negative <;> decide +kernel
    refine ⟨_, hproper.wellFormed, ?_, ?_⟩
    · rw [hzero]
      cases negative <;> decide +kernel
    · exact Spelling.encode_chars ⟨negative, ['0'], ['0'], none⟩
  · rw [if_neg hm, if_neg hm]
    have hm' := Nat.pos_of_ne_zero hm
    refine ⟨_, (proper_shortest hm' hc.short q negative).wellFormed,
      value_shortest hm' hc hq negative, ?_⟩
    rw [← Spelling.encode_chars, chars_spell]

/-- The digits of a natural number are those of a numeral. -/
theorem proper_integer (negative : Bool) (n : ℕ) :
    (⟨negative, Nat.toDigits 10 n, [], none⟩ : Spelling).Proper := by
  refine ⟨allDigits_toDigits n, Nat.toDigits_ne_nil, ?_, (fun _ h => nomatch h), fun _ h => nomatch h⟩
  intro hhead
  obtain ⟨more, hmore⟩ := List.head?_eq_some_iff.mp hhead
  obtain rfl := Text.eq_zero_of_toDigits_eq hmore
  rfl

/-- The text of a natural number is the text of a numeral, whose value it is if it fits. -/
theorem exists_numeral_count {n : ℕ} (hn : n < UInt64.size) :
    ∃ u : Numeral, u.WellFormed ∧ u.value = .ok (.integer n) ∧
      encode (Number.integer n).chars = u.text := by
  refine ⟨_, (proper_integer false n).wellFormed, ?_, ?_⟩
  · have hinteger : (Spelling.numeral ⟨false, Nat.toDigits 10 n, [], none⟩).integer? =
        some (n : ℤ) := by
      show (if digitsValue (encode (Nat.toDigits 10 n)) < UInt64.size then
        some (digitsValue (encode (Nat.toDigits 10 n)) : ℤ) else none) = _
      rw [digitsValue_encode (allDigits_toDigits n), Nat.ofDigitChars_ten_toDigits, if_pos hn]
    rw [Numeral.value, hinteger]
  · rw [← Spelling.encode_chars]
    congr 1
    show (Nat.repr n).toList = [] ++ (Nat.toDigits 10 n ++ ([] ++ []))
    rw [Nat.toList_repr, List.append_nil, List.append_nil, List.nil_append]

end StarSurvey.Json
