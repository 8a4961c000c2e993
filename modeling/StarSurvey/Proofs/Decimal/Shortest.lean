import Mathlib.Algebra.Order.Field.Power
import Mathlib.Data.Nat.Cast.Order.Field
import Mathlib.Tactic.FieldSimp
import Mathlib.Tactic.Linarith
import Mathlib.Tactic.NormNum
import Mathlib.Tactic.Positivity
import Mathlib.Tactic.Ring
import StarSurvey.Decimal.Shortest
import StarSurvey.Proofs.Text

/-!
# The shortest digits are near to the double

- **Value** (`Digits.value`): the decimal that digits and exponent stand for.
- **Leading digit** (`ten_zpow_lead_le`, `lt_ten_zpow_lead`, `leading_spec`): a decimal lies between
  the powers of ten of its leading digit and of the next.
- **Intervals** (`Interval.Contains`, `Interval.holds_iff`): what is tested on scaled naturals.
- **Seventeen digits** (`onGrid?_seventeen`): so many always suffice.
- **The search** (`inside_shortest`, `bounds_shortest`): the digits that are found stand for a
  decimal in the interval of the double, so they are not all zero and not above the double by more
  than half a unit of its last place.
-/

namespace StarSurvey.Decimal

theorem Ratio.scale_den_pos {b : ℕ} (hb : 0 < b) (e : ℤ) : 0 < (Ratio.scale 1 b e).den :=
  Nat.pow_pos hb

theorem Ratio.scale_num {b : ℕ} (hb : 0 < b) (e : ℤ) :
    ((Ratio.scale 1 b e).num : ℚ) = b ^ e * (Ratio.scale 1 b e).den := by
  show ((1 * b ^ e.toNat : ℕ) : ℚ) = b ^ e * (b ^ (-e).toNat : ℕ)
  have hb0 : (b : ℚ) ≠ 0 := by exact_mod_cast hb.ne'
  push_cast
  rw [one_mul, ← zpow_natCast, ← zpow_natCast, ← zpow_add₀ hb0]
  congr 1
  omega

theorem Ratio.scale_two (m : ℕ) (q : ℤ) :
    ((Ratio.scale m 2 q).num : ℚ) / (Ratio.scale m 2 q).den = m * 2 ^ q := by
  have hnum : ((Ratio.scale m 2 q).num : ℚ) = m * 2 ^ q.toNat := by
    show ((m * 2 ^ q.toNat : ℕ) : ℚ) = _
    push_cast
    rfl
  have hden : ((Ratio.scale m 2 q).den : ℚ) = 2 ^ (-q).toNat := by
    show ((2 ^ (-q).toNat : ℕ) : ℚ) = _
    push_cast
    rfl
  rw [hnum, hden, mul_div_assoc, ← zpow_natCast, ← zpow_natCast, ← zpow_sub₀ two_ne_zero]
  congr 2
  omega

/-- A step of a grid and a quarter of a unit, scaled to naturals. -/
theorem Ratio.exists_scale (q g : ℤ) : ∃ d : ℚ, 0 < d ∧
    (((Ratio.scale 1 2 (q - 2)).num * (Ratio.scale 1 10 g).den : ℕ) : ℚ) = 2 ^ (q - 2) * d ∧
    (((Ratio.scale 1 10 g).num * (Ratio.scale 1 2 (q - 2)).den : ℕ) : ℚ) = 10 ^ g * d := by
  have hstep := Ratio.scale_num (b := 10) (by decide) g
  have hquarter := Ratio.scale_num (b := 2) (by decide) (q - 2)
  refine ⟨(Ratio.scale 1 10 g).den * (Ratio.scale 1 2 (q - 2)).den, ?_, ?_, ?_⟩
  · exact_mod_cast Nat.mul_pos (Ratio.scale_den_pos (by decide) _) (Ratio.scale_den_pos (by decide) _)
  · push_cast [hquarter]
    ring
  · push_cast [hstep]
    ring

namespace Digits

/-- What the digits stand for. -/
def value (d : Digits) : ℚ := d.digits * 10 ^ d.exponent

/-! ## The leading digit -/

/-- The exponent of the leading digit. -/
def lead (d : Digits) : ℤ := ((Nat.toDigits 10 d.digits).length : ℤ) - 1 + d.exponent

theorem lt_ten_zpow_lead (d : Digits) : d.value < 10 ^ (d.lead + 1) := by
  have hlt := (Nat.length_toDigits_le_iff (n := d.digits) (by decide)
    (Nat.length_toDigits_pos (b := 10))).mp (le_refl _)
  have hlt' : (d.digits : ℚ) < 10 ^ (Nat.toDigits 10 d.digits).length := by exact_mod_cast hlt
  calc d.value < 10 ^ (Nat.toDigits 10 d.digits).length * 10 ^ d.exponent :=
        mul_lt_mul_of_pos_right hlt' (zpow_pos (by norm_num) _)
    _ = 10 ^ (d.lead + 1) := by
      rw [← zpow_natCast, ← zpow_add₀ (by norm_num), lead]
      congr 1
      omega

theorem ten_zpow_lead_le {d : Digits} (hd : 0 < d.digits) : 10 ^ d.lead ≤ d.value := by
  have hlen := Nat.length_toDigits_pos (b := 10) (n := d.digits)
  have hle : 10 ^ ((Nat.toDigits 10 d.digits).length - 1) ≤ d.digits := by
    by_cases hone : (Nat.toDigits 10 d.digits).length = 1
    · rw [hone]
      exact hd
    · by_contra hlt
      have := (Nat.length_toDigits_le_iff (n := d.digits) (b := 10) (by decide)
        (show 0 < (Nat.toDigits 10 d.digits).length - 1 by omega)).mpr (by omega)
      omega
  have hle' : (10 : ℚ) ^ ((Nat.toDigits 10 d.digits).length - 1) ≤ d.digits := by
    exact_mod_cast hle
  calc (10 : ℚ) ^ d.lead
      = 10 ^ ((Nat.toDigits 10 d.digits).length - 1) * 10 ^ d.exponent := by
        rw [← zpow_natCast, ← zpow_add₀ (by norm_num), lead]
        congr 1
        omega
    _ ≤ d.value := mul_le_mul_of_nonneg_right hle' (zpow_pos (by norm_num) _).le

theorem count_spec {n : ℕ} (hn : 0 < n) :
    (10 : ℚ) ^ ((count n : ℤ) - 1) ≤ n ∧ n + 1 ≤ (10 : ℚ) ^ (count n : ℤ) := by
  have hlow := ten_zpow_lead_le (d := ⟨n, 0⟩) hn
  have hhigh := lt_ten_zpow_lead ⟨n, 0⟩
  simp only [value, lead, zpow_zero, mul_one, add_zero, sub_add_cancel] at hlow hhigh
  rw [count, if_neg hn.ne']
  refine ⟨hlow, ?_⟩
  rw [zpow_natCast] at hhigh ⊢
  exact_mod_cast hhigh

/-- The digits of the whole part are counted. -/
theorem leading_spec_of_le {a b : ℕ} (hb : 0 < b) (hle : b ≤ a) :
    (10 : ℚ) ^ leading ⟨a, b⟩ ≤ a / b ∧ (a : ℚ) / b < 10 ^ (leading ⟨a, b⟩ + 1) := by
  have hb' : (0 : ℚ) < b := by exact_mod_cast hb
  obtain ⟨hlow, hhigh⟩ := count_spec (Nat.div_pos hle hb)
  have hlt : a < (a / b + 1) * b := Nat.lt_mul_of_div_lt (Nat.lt_succ_self _) hb
  rw [leading, if_pos hle, sub_add_cancel]
  refine ⟨hlow.trans Nat.cast_div_le, ?_⟩
  rw [div_lt_iff₀ hb']
  calc (a : ℚ) < ((a / b : ℕ) + 1) * b := by exact_mod_cast hlt
    _ ≤ 10 ^ (count (a / b) : ℤ) * b := mul_le_mul_of_nonneg_right hhigh hb'.le

/-- Where there is no whole part it is counted how often the numerator goes into the denominator,
less than in full. -/
theorem leading_spec_of_lt {a b : ℕ} (ha : 0 < a) (hlt : a < b) :
    (10 : ℚ) ^ leading ⟨a, b⟩ ≤ a / b ∧ (a : ℚ) / b < 10 ^ (leading ⟨a, b⟩ + 1) := by
  have ha' : (0 : ℚ) < a := by exact_mod_cast ha
  have hb' : (0 : ℚ) < b := by exact_mod_cast ha.trans hlt
  have hge : 2 ≤ (b + a - 1) / a := by
    rw [Nat.le_div_iff_mul_le ha]
    omega
  have hdiv := Nat.div_mul_le_self (b + a - 1) a
  have hmod := Nat.lt_mul_of_div_lt (Nat.lt_succ_self ((b + a - 1) / a)) ha
  rw [leading, if_neg (not_le.mpr hlt)]
  generalize (b + a - 1) / a = c at hge hdiv hmod
  obtain ⟨j, rfl⟩ : ∃ j, c = j + 1 := ⟨c - 1, by omega⟩
  obtain ⟨hlow, hhigh⟩ := count_spec (show 0 < j by omega)
  simp only [Nat.add_sub_cancel]
  have hbelow : j * a < b := by
    rw [Nat.add_mul] at hdiv
    omega
  have habove : b ≤ (j + 1) * a := by
    rw [Nat.succ_eq_add_one, Nat.add_mul (j + 1) 1] at hmod
    omega
  constructor
  · rw [zpow_neg, le_div_iff₀ hb', inv_mul_le_iff₀ (by positivity)]
    calc (b : ℚ) ≤ (j + 1) * a := by exact_mod_cast habove
      _ ≤ 10 ^ (count j : ℤ) * a := mul_le_mul_of_nonneg_right hhigh ha'.le
  · have hsub : -(count j : ℤ) + 1 = -((count j : ℤ) - 1) := by ring
    rw [div_lt_iff₀ hb', hsub, zpow_neg, lt_inv_mul_iff₀ (by positivity)]
    calc (10 : ℚ) ^ ((count j : ℤ) - 1) * a ≤ j * a := mul_le_mul_of_nonneg_right hlow ha'.le
      _ < b := by exact_mod_cast hbelow

/-- The leading digit of a quotient is found from whole digits. -/
theorem leading_spec {v : Ratio} (hnum : 0 < v.num) (hden : 0 < v.den) :
    (10 : ℚ) ^ leading v ≤ v.num / v.den ∧ (v.num : ℚ) / v.den < 10 ^ (leading v + 1) := by
  by_cases hle : v.den ≤ v.num
  · exact leading_spec_of_le hden hle
  · exact leading_spec_of_lt hnum (not_le.mp hle)

/-! ## Intervals -/

/-- A quarter of a unit. -/
theorem two_zpow_sub_two (q : ℤ) : (2 : ℚ) ^ (q - 2) = 2 ^ q / 4 := by
  rw [zpow_sub₀ two_ne_zero]
  norm_num

section

variable {m : ℕ} (hm : 0 < m) (q : ℤ)

include hm

theorem Interval.low_pos : 0 < (Interval.of m q).low := by
  simp only [Interval.of]
  split <;> omega

/-- The lower end is half a unit below the double, or a quarter. -/
theorem Interval.low_of : ((Interval.of m q).low : ℚ) =
    4 * m - if m = 2 ^ 52 ∧ q ≠ -1074 then 1 else 2 := by
  have hlow : (Interval.of m q).low = 4 * m - if m = 2 ^ 52 ∧ q ≠ -1074 then 1 else 2 := rfl
  rw [hlow]
  split
  · rw [Nat.cast_sub (by omega)]
    norm_num
  · rw [Nat.cast_sub (by omega)]
    norm_num

end

/-- The upper end is half a unit above. -/
theorem Interval.high_of (m : ℕ) (q : ℤ) : ((Interval.of m q).high : ℚ) = 4 * m + 2 := by
  simp [Interval.of]

/-- A rational is in an interval that is given in quarters of the unit `2^q`. -/
structure Interval.Contains (i : Interval) (q : ℤ) (x : ℚ) : Prop where
  lower : (i.low : ℚ) * 2 ^ (q - 2) ≤ x
  upper : x ≤ i.high * 2 ^ (q - 2)
  inner : i.closed = false → (i.low : ℚ) * 2 ^ (q - 2) < x ∧ x < i.high * 2 ^ (q - 2)

/-- On scaled naturals it is tested whether a decimal is in an interval. -/
theorem Interval.holds_iff {i : Interval} {q g : ℤ} {n : ℕ} :
    i.holds ((Ratio.scale 1 2 (q - 2)).num * (Ratio.scale 1 10 g).den)
      (n * ((Ratio.scale 1 10 g).num * (Ratio.scale 1 2 (q - 2)).den)) = true ↔
      i.Contains q (n * 10 ^ g) := by
  obtain ⟨d, hd, hb, hc⟩ := Ratio.exists_scale q g
  have hle : ∀ a : ℕ,
      (a * ((Ratio.scale 1 2 (q - 2)).num * (Ratio.scale 1 10 g).den) ≤
          n * ((Ratio.scale 1 10 g).num * (Ratio.scale 1 2 (q - 2)).den) ↔
        (a : ℚ) * 2 ^ (q - 2) ≤ n * 10 ^ g) ∧
      (n * ((Ratio.scale 1 10 g).num * (Ratio.scale 1 2 (q - 2)).den) ≤
          a * ((Ratio.scale 1 2 (q - 2)).num * (Ratio.scale 1 10 g).den) ↔
        (n : ℚ) * 10 ^ g ≤ a * 2 ^ (q - 2)) := by
    intro a
    rw [← Nat.cast_le (α := ℚ), ← Nat.cast_le (α := ℚ), Nat.cast_mul a, Nat.cast_mul n, hb, hc,
      ← mul_assoc, ← mul_assoc, mul_le_mul_iff_left₀ hd, mul_le_mul_iff_left₀ hd]
    exact ⟨Iff.rfl, Iff.rfl⟩
  unfold holds
  cases hclosed : i.closed with
  | true =>
    simp only [if_true, Bool.and_eq_true, decide_eq_true_eq, (hle _).1, (hle _).2]
    exact ⟨fun h => ⟨h.1, h.2, fun h => nomatch hclosed.symm.trans h⟩, fun h => ⟨h.lower, h.upper⟩⟩
  | false =>
    simp only [Bool.false_eq_true, if_false, Bool.and_eq_true, decide_eq_true_eq, ← not_le,
      (hle _).1, (hle _).2]
    simp only [not_le]
    exact ⟨fun h => ⟨h.1.le, h.2.le, fun _ => h⟩, fun h => h.inner hclosed⟩

/-! ## The digits that are found -/

/-- The decimal that is found on a grid is in the interval. -/
theorem contains_of_onGrid? {i : Interval} {q g : ℤ} {n : ℕ} (h : onGrid? i q g = some n) :
    i.Contains q (n * 10 ^ g) := by
  rw [← Interval.holds_iff]
  simp only [onGrid?] at h
  split at h
  · rename_i hbelow habove
    cases h
    split
    · exact hbelow
    · exact habove
  · rename_i hbelow habove
    cases h
    exact hbelow
  · rename_i hbelow habove
    cases h
    exact habove
  · cases h

/-- Digits that are not all zero, for a decimal in an interval. -/
structure Inside (i : Interval) (q : ℤ) (d : Digits) : Prop where
  pos : 0 < d.digits
  contains : i.Contains q d.value

theorem Inside.of_onGrid? {i : Interval} (hi : 0 < i.low) {q g : ℤ} {n : ℕ}
    (h : onGrid? i q g = some n) : Inside i q ⟨n, g⟩ := by
  have hin := contains_of_onGrid? h
  refine ⟨?_, hin⟩
  have hlow0 : (0 : ℚ) < i.low * 2 ^ (q - 2) :=
    mul_pos (by exact_mod_cast hi) (zpow_pos two_pos _)
  have hten : (0 : ℚ) < 10 ^ g := zpow_pos (by norm_num) _
  exact_mod_cast pos_of_mul_pos_left (hlow0.trans_le hin.lower) hten.le

/-- A last digit zero may be left out. -/
theorem value_drop_zero {n : ℕ} (hn : n % 10 = 0) (g : ℤ) : value ⟨n / 10, g + 1⟩ = value ⟨n, g⟩ := by
  obtain ⟨k, rfl⟩ := Nat.dvd_of_mod_eq_zero hn
  simp only [value]
  rw [Nat.mul_div_cancel_left k (by decide), zpow_add_one₀ (by norm_num)]
  push_cast
  ring

theorem Inside.drop_zero {i : Interval} {q g : ℤ} {n : ℕ} (h : Inside i q ⟨n, g⟩)
    (hn : n % 10 = 0) : Inside i q ⟨n / 10, g + 1⟩ := by
  have hpos : 0 < n := h.pos
  exact ⟨show 0 < n / 10 by omega, value_drop_zero hn g ▸ h.contains⟩

/-! ## Seventeen digits -/

/-- The upper half of an interval is half a unit wide, and the lower one also, except below a power
of two. -/
theorem Interval.contains_of_near {m : ℕ} (hm : 0 < m) {q : ℤ} {x : ℚ}
    (hlow : m * 2 ^ q < x + 2 ^ q / 2) (hnarrow : m = 2 ^ 52 → m * 2 ^ q < x + 2 ^ q / 4)
    (hhigh : x < m * 2 ^ q + 2 ^ q / 2) : (Interval.of m q).Contains q x := by
  have hlower : ((Interval.of m q).low : ℚ) * 2 ^ (q - 2) < x := by
    rw [two_zpow_sub_two, Interval.low_of hm]
    split
    · rename_i hn
      linarith [hnarrow hn.1]
    · linarith
  have hupper : x < (Interval.of m q).high * 2 ^ (q - 2) := by
    rw [two_zpow_sub_two, Interval.high_of]
    linarith
  exact ⟨hlower.le, hupper.le, fun _ => ⟨hlower, hupper⟩⟩

/-- The last decimal of a grid that is not above a double, and the next one. -/
theorem neighbours (m : ℕ) (q g : ℤ) :
    let a := (Ratio.scale 1 10 g).num * (Ratio.scale 1 2 (q - 2)).den
    let b := (Ratio.scale 1 2 (q - 2)).num * (Ratio.scale 1 10 g).den
    let n := (Interval.of m q).value * b / a
    (n : ℚ) * 10 ^ g ≤ m * 2 ^ q ∧ (m : ℚ) * 2 ^ q < (n + 1 : ℕ) * 10 ^ g := by
  intro a b n
  obtain ⟨d, hd, hb, ha⟩ := Ratio.exists_scale q g
  have hvalue : ((Interval.of m q).value : ℚ) * 2 ^ (q - 2) = m * 2 ^ q := by
    rw [two_zpow_sub_two]
    simp only [Interval.of]
    push_cast
    ring
  have hvalue : ((Interval.of m q).value * b : ℚ) = m * 2 ^ q * d := by
    rw [hb, ← mul_assoc, hvalue]
  have hapos : 0 < a := by
    have : (0 : ℚ) < 10 ^ g * d := mul_pos (zpow_pos (by norm_num) g) hd
    rw [← ha] at this
    exact_mod_cast this
  have hdown : (n * a : ℚ) ≤ (Interval.of m q).value * b := by
    exact_mod_cast Nat.div_mul_le_self ((Interval.of m q).value * b) a
  have hup : ((Interval.of m q).value * b : ℚ) < (n + 1 : ℕ) * a := by
    exact_mod_cast Nat.lt_mul_of_div_lt (Nat.lt_succ_self n) hapos
  rw [hvalue, ha, ← mul_assoc] at hdown hup
  exact ⟨le_of_mul_le_mul_right hdown hd, lt_of_mul_lt_mul_right hup hd.le⟩

/-- On a grid that is fine enough one of the two neighbours of a double is in its interval. -/
theorem onGrid?_ne_none {m : ℕ} (hm : 0 < m) {q g : ℤ} (hstep : (10 : ℚ) ^ g < 2 ^ q)
    (hnarrow : m = 2 ^ 52 → (10 : ℚ) ^ g < 2 ^ q / 2) : onGrid? (.of m q) q g ≠ none := by
  have htwo : (0 : ℚ) < 2 ^ q := zpow_pos two_pos q
  obtain ⟨hdown, hup⟩ := neighbours m q g
  intro hnone
  simp only [onGrid?] at hnone
  split at hnone
  · cases hnone
  · cases hnone
  · cases hnone
  · rename_i hbelow habove
    rw [Bool.eq_false_iff, Ne, Interval.holds_iff] at hbelow habove
    generalize (Interval.of m q).value * (_ * _) / (_ * _) = n at hdown hup hbelow habove
    push_cast at habove hup
    rw [add_mul, one_mul] at habove hup
    -- below a power of two the one above is near enough, elsewhere the nearer of the two
    by_cases hpower : m = 2 ^ 52
    · have := hnarrow hpower
      exact habove (Interval.contains_of_near hm (by linarith) (fun _ => by linarith) (by linarith))
    · by_cases hnear : (m : ℚ) * 2 ^ q < n * 10 ^ g + 2 ^ q / 2
      · exact hbelow (Interval.contains_of_near hm hnear (fun h => absurd h hpower) (by linarith))
      · exact habove (Interval.contains_of_near hm (by linarith) (fun h => absurd h hpower)
          (by linarith))

/-- A seventeenth digit is worth less than a unit of the last place, and below a power of two less
than half of it. -/
theorem onGrid?_seventeen {m : ℕ} (hm : 0 < m) (hshort : m < 2 ^ 53) (q : ℤ) :
    onGrid? (.of m q) q (leading (.scale m 2 q) + 1 - (17 : ℕ)) ≠ none := by
  have htwo : (0 : ℚ) < 2 ^ q := zpow_pos two_pos q
  have hnum : 0 < (Ratio.scale m 2 q).num := Nat.mul_pos hm (Nat.pow_pos two_pos)
  have hlead := (leading_spec hnum (Ratio.scale_den_pos two_pos q)).1
  rw [Ratio.scale_two] at hlead
  have hgrid : (10 : ℚ) ^ (leading (.scale m 2 q) + 1 - (17 : ℕ)) =
      10 ^ leading (.scale m 2 q) / 10 ^ 16 := by
    rw [← zpow_natCast, ← zpow_sub₀ (by norm_num)]
    congr 1
    push_cast
    ring
  refine onGrid?_ne_none hm ?_ fun hpower => ?_
  · rw [hgrid, div_lt_iff₀ (by norm_num)]
    have : (m : ℚ) ≤ 2 ^ 53 := by exact_mod_cast hshort.le
    have := mul_le_mul_of_nonneg_right this htwo.le
    norm_num at this ⊢
    linarith
  · rw [hgrid, div_lt_iff₀ (by norm_num)]
    rw [hpower] at hlead ⊢
    norm_num at hlead ⊢
    linarith

/-! ## The search -/

section Search

variable {i : Interval} (hi : 0 < i.low) {q lead : ℤ}
  (hhigh : (i.high : ℚ) * 2 ^ (q - 2) ≤ 2 * 10 ^ (lead + 1))

include hi hhigh

/-- What a search ends with, on the grid of `k` digits. -/
theorem inside_found {k n : ℕ} (h : onGrid? i q (lead + 1 - k) = some n) :
    let d : Digits := if n % 10 = 0 then ⟨n / 10, lead + 1 - k + 1⟩ else ⟨n, lead + 1 - k⟩
    Inside i q d ∧ d.digits ≤ 2 * 10 ^ k := by
  intro d
  have hn := Inside.of_onGrid? hi h
  have hle : n ≤ 2 * 10 ^ k := by
    have hgrid : (0 : ℚ) < 10 ^ (lead + 1 - k) := zpow_pos (by norm_num) _
    have hupper := hn.contains.upper.trans hhigh
    have hsplit : (10 : ℚ) ^ (lead + 1) = 10 ^ k * 10 ^ (lead + 1 - k) := by
      rw [← zpow_natCast, ← zpow_add₀ (by norm_num), add_sub_cancel]
    rw [hsplit, ← mul_assoc] at hupper
    exact_mod_cast le_of_mul_le_mul_right hupper hgrid
  by_cases hzero : n % 10 = 0
  · simp only [d, if_pos hzero]
    exact ⟨hn.drop_zero hzero, (Nat.div_le_self n 10).trans hle⟩
  · simp only [d, if_neg hzero]
    exact ⟨hn, hle⟩

/-- It ends at the last number of digits at the latest, and finds no more digits than that. -/
theorem inside_search {k more : ℕ} (hlast : onGrid? i q (lead + 1 - (k + more : ℕ)) ≠ none) :
    Inside i q (search i q lead k (more + 1)) ∧
      (search i q lead k (more + 1)).digits ≤ 2 * 10 ^ (k + more) := by
  induction more generalizing k with
  | zero =>
    rw [search]
    cases h : onGrid? i q (lead + 1 - k) with
    | none => exact absurd h hlast
    | some n => exact inside_found hi hhigh h
  | succ more ih =>
    rw [search]
    cases h : onGrid? i q (lead + 1 - k) with
    | none =>
      rw [show k + (more + 1) = k + 1 + more by omega] at hlast ⊢
      exact ih hlast
    | some n =>
      obtain ⟨hn, hle⟩ := inside_found hi hhigh h
      exact ⟨hn, hle.trans (Nat.mul_le_mul_left 2 (Nat.pow_le_pow_right (by decide) (by omega)))⟩

end Search

/-- The digits of a positive double stand for a decimal in its interval. -/
theorem inside_shortest {m : ℕ} (hm : 0 < m) (hshort : m < 2 ^ 53) (q : ℤ) :
    Inside (.of m q) q (shortest m q) ∧ (shortest m q).digits ≤ 2 * 10 ^ 17 := by
  have hnum : 0 < (Ratio.scale m 2 q).num := Nat.mul_pos hm (Nat.pow_pos two_pos)
  have hlead := (leading_spec hnum (Ratio.scale_den_pos two_pos q)).2
  rw [Ratio.scale_two] at hlead
  have hhigh : ((Interval.of m q).high : ℚ) * 2 ^ (q - 2) ≤
      2 * 10 ^ (leading (.scale m 2 q) + 1) := by
    have hm1 : (1 : ℚ) ≤ m := by exact_mod_cast hm
    have htwo : (0 : ℚ) < 2 ^ q := zpow_pos two_pos q
    have := mul_le_mul_of_nonneg_right hm1 htwo.le
    rw [two_zpow_sub_two, Interval.high_of]
    linarith
  exact inside_search (Interval.low_pos hm q) hhigh (onGrid?_seventeen hm hshort q)

/-- They stand for a decimal near to it. -/
theorem bounds_shortest {m : ℕ} (hm : 0 < m) (hshort : m < 2 ^ 53) (q : ℤ) :
    2 ^ (q - 2) ≤ (shortest m q).value ∧ (shortest m q).value ≤ (m + 1 / 2) * 2 ^ q := by
  obtain ⟨-, hin⟩ := (inside_shortest hm hshort q).1
  constructor
  · have hlow : (1 : ℚ) ≤ (Interval.of m q).low := by exact_mod_cast Interval.low_pos hm q
    exact (le_mul_of_one_le_left (zpow_pos two_pos _).le hlow).trans hin.lower
  · refine hin.upper.trans_eq ?_
    rw [two_zpow_sub_two, Interval.high_of]
    ring

end Digits

end StarSurvey.Decimal
