import Mathlib.Algebra.Order.Field.Power
import Mathlib.Data.Rat.Cast.Order
import Mathlib.Tactic.FieldSimp
import Mathlib.Tactic.Linarith
import Mathlib.Tactic.NormNum
import Mathlib.Tactic.Positivity
import Mathlib.Tactic.Ring

/-!
# Rounding in the model of doubles

`Float` has a model: 64 bits that are unpacked, worked on as a mantissa and an exponent, rounded and
packed again.

- **Residues** (`StandsFor`): the two extra bits of a mantissa say enough about what is cut off to
  round to the nearest (`StandsFor.roundedMantissa`), and from the middle to the even
  (`StandsFor.even_roundedMantissa`).
- **Rounding** (`exists_roundedMantissa`, `exists_rounded`): the result is in canonical form, within
  half a unit of the last place.
-/

namespace StarSurvey.Double

open Float.Model (Format UnpackedFloat totalExponent)
open Float.Model.UnpackedFloat

/-! ## Residues -/

/-- A mantissa stands for a rational in units of its last place: the rest is less than one unit,
the round bit tells whether it is at least a half, and the sticky bit whether it is neither none nor
a half. -/
def StandsFor (em : ExtendedMantissa) (x : ℚ) : Prop :=
  ∃ rest : ℚ, x = em.mantissa + rest ∧ 0 ≤ rest ∧ rest < 1 ∧
    (em.roundBit = true ↔ 1 / 2 ≤ rest) ∧ (em.stickyBit = true ↔ rest ≠ 0 ∧ rest ≠ 1 / 2)

theorem standsFor_exact (m : ℕ) :
    StandsFor (ExtendedMantissa.ofMantissaAndAccuracy m .exact) m := by
  refine ⟨0, by simp [ExtendedMantissa.ofMantissaAndAccuracy], le_refl _, one_pos, ?_, ?_⟩
  · simp [ExtendedMantissa.ofMantissaAndAccuracy]
  · simp [ExtendedMantissa.ofMantissaAndAccuracy]

/-- The whole part of a quotient stands for the quotient. -/
theorem standsFor_quotient (num : ℕ) {den : ℕ} (h : 0 < den) :
    StandsFor (ExtendedMantissa.ofMantissaAndAccuracy (num / den)
      (accuracyOfFraction (num % den) den)) (num / den : ℚ) := by
  have hden : (0 : ℚ) < den := by exact_mod_cast h
  have hx : (num : ℚ) / den = (num / den : ℕ) + (num % den : ℕ) / (den : ℚ) := by
    have := Nat.div_add_mod num den
    field_simp
    exact_mod_cast this.symm
  have hlt := Nat.mod_lt num h
  rw [hx]
  generalize num % den = r at hlt
  have hrest : (r : ℚ) / den < 1 := (div_lt_one hden).mpr (by exact_mod_cast hlt)
  have hhalf : 1 / 2 ≤ (r : ℚ) / den ↔ den ≤ 2 * r := by
    rw [div_le_div_iff₀ two_pos hden, one_mul]
    norm_cast
    rw [mul_comm]
  have heq : (r : ℚ) / den = 1 / 2 ↔ 2 * r = den := by
    rw [div_eq_div_iff hden.ne' two_ne_zero, one_mul]
    norm_cast
    rw [mul_comm]
  have hzero : (r : ℚ) / den = 0 ↔ r = 0 := by
    rw [div_eq_zero_iff]
    simp [h.ne']
  by_cases hr : r = 0
  · subst hr
    simpa [accuracyOfFraction] using standsFor_exact (num / den)
  · refine ⟨r / den, ?_, by positivity, hrest, ?_, ?_⟩
    all_goals rcases hc : compare (2 * r) den with _ | _ | _
    all_goals
      simp only [accuracyOfFraction, if_neg hr, hc, ExtendedMantissa.ofMantissaAndAccuracy, hhalf,
        heq, hzero, ne_eq, Bool.false_eq_true, false_iff, true_iff]
    · rw [Nat.compare_eq_lt] at hc
      omega
    · rw [Nat.compare_eq_eq] at hc
      omega
    · rw [Nat.compare_eq_gt] at hc
      omega
    · rw [Nat.compare_eq_lt] at hc
      omega
    · rw [Nat.compare_eq_eq] at hc
      omega
    · rw [Nat.compare_eq_gt] at hc
      omega

/-- The mantissa is the whole part of what it stands for. -/
theorem StandsFor.bounds {m : ℕ} {acc : Accuracy} {x : ℚ}
    (h : StandsFor (ExtendedMantissa.ofMantissaAndAccuracy m acc) x) : (m : ℚ) ≤ x ∧ x < m + 1 := by
  obtain ⟨rest, rfl, h0, h1, -, -⟩ := h
  have hm : (ExtendedMantissa.ofMantissaAndAccuracy m acc).mantissa = m := by
    rcases acc with _ | (_ | _ | _) <;> rfl
  rw [hm]
  constructor <;> linarith

theorem StandsFor.shiftRightOne {em : ExtendedMantissa} {x : ℚ} (h : StandsFor em x) :
    StandsFor em.shiftRightOne (x / 2) := by
  obtain ⟨m, roundBit, stickyBit⟩ := em
  obtain ⟨rest, rfl, h0, h1, hround, hsticky⟩ := h
  have hm : (m : ℚ) = 2 * (m / 2 : ℕ) + (m % 2 : ℕ) := by exact_mod_cast (Nat.div_add_mod m 2).symm
  have hlost : (roundBit || stickyBit) = true ↔ rest ≠ 0 := by
    rw [Bool.or_eq_true, hround, hsticky]
    constructor
    · rintro (h | h)
      · linarith
      · exact h.1
    · intro h
      by_cases hr : rest = 1 / 2
      · exact .inl hr.ge
      · exact .inr ⟨h, hr⟩
  rcases Nat.mod_two_eq_zero_or_one m with h2 | h2
  · rw [h2, Nat.cast_zero, add_zero] at hm
    refine ⟨rest / 2, ?_, by linarith, by linarith, ?_, ?_⟩
    · simp only [ExtendedMantissa.shiftRightOne, hm]
      ring
    · simp only [ExtendedMantissa.shiftRightOne, h2, bne_self_eq_false, Bool.false_eq_true,
        false_iff, not_le]
      linarith
    · show (roundBit || stickyBit) = true ↔ _
      rw [hlost]
      constructor
      · intro h
        exact ⟨by simpa using h, by linarith⟩
      · rintro ⟨h, -⟩ rfl
        simp at h
  · rw [h2, Nat.cast_one] at hm
    refine ⟨(1 + rest) / 2, ?_, by linarith, by linarith, ?_, ?_⟩
    · simp only [ExtendedMantissa.shiftRightOne, hm]
      ring
    · simp only [ExtendedMantissa.shiftRightOne, h2]
      simp only [bne_iff_ne, ne_eq, one_ne_zero, not_false_eq_true, true_iff]
      linarith
    · show (roundBit || stickyBit) = true ↔ _
      rw [hlost]
      constructor
      · intro h
        refine ⟨by linarith, fun he => h (by linarith)⟩
      · rintro ⟨-, h⟩ rfl
        simp at h

/-- Shifting a mantissa divides what it stands for. -/
theorem StandsFor.shiftRight {em : ExtendedMantissa} {x : ℚ} (h : StandsFor em x) (n : ℕ) :
    StandsFor (em >>> n) (x / 2 ^ n) := by
  change StandsFor (n.repeat ExtendedMantissa.shiftRightOne em) _
  induction n with
  | zero => simpa [Nat.repeat] using h
  | succ n ih =>
    rw [Nat.repeat, pow_succ, ← div_div]
    exact ih.shiftRightOne

/-- Rounding moves what a mantissa stands for by half a unit at most. -/
theorem StandsFor.roundedMantissa {em : ExtendedMantissa} {x : ℚ} (h : StandsFor em x) :
    |(em.roundedMantissa : ℚ) - x| ≤ 1 / 2 := by
  obtain ⟨m, roundBit, stickyBit⟩ := em
  obtain ⟨rest, rfl, h0, h1, hround, hsticky⟩ := h
  cases roundBit with
  | false =>
    have hlow : rest < 1 / 2 := not_le.mp fun h => Bool.false_ne_true (hround.mpr h)
    have hm : ExtendedMantissa.roundedMantissa ⟨m, false, stickyBit⟩ = m := by
      cases stickyBit <;> rfl
    rw [hm, abs_le]
    constructor <;> linarith
  | true =>
    have hhigh : 1 / 2 ≤ rest := hround.mp rfl
    cases stickyBit with
    | false =>
      have hrest : rest = 1 / 2 := by
        by_contra hne
        exact Bool.false_ne_true (hsticky.mpr ⟨by linarith, hne⟩)
      have hm : ExtendedMantissa.roundedMantissa ⟨m, true, false⟩ = m + m % 2 := rfl
      rw [hm, hrest, Nat.cast_add, abs_le]
      have h2 : ((m % 2 : ℕ) : ℚ) ≤ 1 := by exact_mod_cast Nat.le_of_lt_succ (Nat.mod_lt m two_pos)
      constructor <;> linarith [(Nat.cast_nonneg _ : (0 : ℚ) ≤ (m % 2 : ℕ))]
    | true =>
      have hm : ExtendedMantissa.roundedMantissa ⟨m, true, true⟩ = m + 1 := rfl
      rw [hm, Nat.cast_add, Nat.cast_one, abs_le]
      constructor <;> linarith

/-- What is in the middle between two mantissas goes to the even one. -/
theorem StandsFor.even_roundedMantissa {em : ExtendedMantissa} {x : ℚ} (h : StandsFor em x)
    (hhalf : |(em.roundedMantissa : ℚ) - x| = 1 / 2) : em.roundedMantissa % 2 = 0 := by
  obtain ⟨m, roundBit, stickyBit⟩ := em
  obtain ⟨rest, rfl, h0, h1, hround, hsticky⟩ := h
  cases roundBit with
  | false =>
    have hlow : rest < 1 / 2 := not_le.mp fun h => Bool.false_ne_true (hround.mpr h)
    have hm : ExtendedMantissa.roundedMantissa ⟨m, false, stickyBit⟩ = m := by
      cases stickyBit <;> rfl
    rw [hm, sub_add_cancel_left, abs_neg, abs_of_nonneg h0] at hhalf
    exact absurd hhalf hlow.ne
  | true =>
    cases stickyBit with
    | false =>
      have hm : ExtendedMantissa.roundedMantissa ⟨m, true, false⟩ = m + m % 2 := rfl
      rw [hm]
      omega
    | true =>
      have hne := (hsticky.mp rfl).2
      have hm : ExtendedMantissa.roundedMantissa ⟨m, true, true⟩ = m + 1 := rfl
      rw [hm, Nat.cast_add, Nat.cast_one, add_sub_add_left_eq_sub,
        abs_of_nonneg (by linarith)] at hhalf
      exact absurd (by linarith) hne

/-! ## Rounding -/

/-- The exponent that the last place of a rounded mantissa has. -/
def unit (m : ℕ) (e : ℤ) : ℤ := Format.binary64.targetExponent (totalExponent m e)

theorem unit_eq (m : ℕ) (e : ℤ) : unit m e = max ((m.log2 : ℤ) + 1 + e - 53) (-1074) := rfl

/-- A mantissa of at most 53 bits, and of all 53 unless the exponent is the least. -/
structure Canonical (m : ℕ) (e : ℤ) : Prop where
  short : m < 2 ^ 53
  least : -1074 ≤ e
  full : 2 ^ 52 ≤ m ∨ e = -1074

/-- A mantissa at an exponent; none is a zero. -/
def ofPair (s : Sign) (p : ℕ × ℤ) : UnpackedFloat :=
  if h : p.1 = 0 then .zero s else .finite s p.1 p.2 (Nat.pos_of_ne_zero h)

/-- A rounded mantissa in its place: one that has got too long ends in a zero. -/
def settle (r : ℕ) (t : ℤ) : ℕ × ℤ := if r = 2 ^ 53 then (2 ^ 52, t + 1) else (r, t)

/-- The second shift only settles the rounded mantissa. -/
theorem shiftToTargetExponent_rounded {r : ℕ} (hr : r ≤ 2 ^ 53) {t : ℤ} (ht : -1074 ≤ t) :
    ((shiftToTargetExponent .binary64 r t .exact).1.mantissa,
      (shiftToTargetExponent .binary64 r t .exact).2) = settle r t := by
  unfold settle
  have htarget : shiftToTargetExponent .binary64 r t .exact =
      shiftToExponent r t .exact (unit r t) := rfl
  by_cases hfull : r = 2 ^ 53
  · have hunit : unit r t = t + 1 := by
      rw [unit_eq, hfull, Nat.log2_two_pow]
      omega
    rw [htarget, hunit, if_pos hfull, shiftToExponent, hfull]
    have hone : (t + 1 - t).toNat = 1 := by omega
    rw [hone]
    rfl
  · have hunit : unit r t ≤ t := by
      have hlog : r.log2 < 53 := by
        by_cases hz : r = 0
        · rw [hz]
          decide
        · exact (Nat.log2_lt hz).mpr (by omega)
      rw [unit_eq]
      omega
    have hzero : (unit r t - t).toNat = 0 := by omega
    rw [htarget, if_neg hfull, shiftToExponent, hzero]
    simp only [Nat.cast_zero, add_zero]
    rfl

variable {m : ℕ} {e : ℤ} {acc : Accuracy} {x : ℚ}

/-- Rounding comes to one rounded mantissa. -/
theorem roundWithAccuracy_eq (s : Sign) (he : e ≤ unit m e) (ht : -1074 ≤ unit m e)
    (hr : (ExtendedMantissa.ofMantissaAndAccuracy m acc >>>
      (unit m e - e).toNat).roundedMantissa ≤ 2 ^ 53) :
    roundWithAccuracy .binary64 s m e acc =
      ofPair s (settle (ExtendedMantissa.ofMantissaAndAccuracy m acc >>>
        (unit m e - e).toNat).roundedMantissa (unit m e)) := by
  have hfirst : shiftToTargetExponent .binary64 m e acc =
      (ExtendedMantissa.ofMantissaAndAccuracy m acc >>> (unit m e - e).toNat, unit m e) := by
    show (_, e + ((unit m e - e).toNat : ℤ)) = _
    rw [Int.toNat_of_nonneg (by omega), add_sub_cancel]
    rfl
  rw [← shiftToTargetExponent_rounded hr ht]
  unfold roundWithAccuracy
  rw [hfirst]
  rfl

theorem two_zpow_add (a b : ℤ) : (2 : ℚ) ^ (a + b) = 2 ^ a * 2 ^ b := zpow_add₀ two_ne_zero a b

theorem two_zpow_pos (a : ℤ) : (0 : ℚ) < 2 ^ a := zpow_pos two_pos a

theorem two_zpow_le {a b : ℤ} (h : a ≤ b) : (2 : ℚ) ^ a ≤ 2 ^ b := zpow_le_zpow_right₀ one_le_two h

/-- If the last place is not lost, the mantissa fills its unit. -/
theorem two_zpow_unit_le (he : e ≤ unit m e) (ht : -1074 < unit m e) :
    (2 : ℚ) ^ (unit m e) * 2 ^ 52 ≤ m * 2 ^ e := by
  have hunit : unit m e = m.log2 + 1 + e - 53 := by
    rw [unit_eq] at ht ⊢
    omega
  have hm : m ≠ 0 := by
    rintro rfl
    rw [hunit, Nat.log2_zero] at he
    omega
  have hlog : (2 : ℚ) ^ m.log2 ≤ m := by exact_mod_cast Nat.log2_self_le hm
  calc (2 : ℚ) ^ (unit m e) * 2 ^ 52 = 2 ^ m.log2 * 2 ^ e := by
        rw [hunit, ← zpow_natCast, ← zpow_natCast, ← two_zpow_add, ← two_zpow_add]
        congr 1
        push_cast
        ring
    _ ≤ m * 2 ^ e := mul_le_mul_of_nonneg_right hlog (two_zpow_pos e).le

/-- The mantissa is below all that its unit can hold. -/
theorem lt_two_zpow_unit (m : ℕ) (e : ℤ) : ((m + 1 : ℕ) : ℚ) * 2 ^ e ≤ 2 ^ (unit m e) * 2 ^ 53 := by
  have hlog : ((m + 1 : ℕ) : ℚ) ≤ 2 ^ (m.log2 + 1) := by exact_mod_cast Nat.lt_log2_self
  calc ((m + 1 : ℕ) : ℚ) * 2 ^ e ≤ 2 ^ (m.log2 + 1) * 2 ^ e :=
        mul_le_mul_of_nonneg_right hlog (two_zpow_pos e).le
    _ = 2 ^ ((m.log2 : ℤ) + 1 + e - 53) * 2 ^ 53 := by
        rw [← zpow_natCast, ← zpow_natCast, ← two_zpow_add, ← two_zpow_add]
        congr 1
        push_cast
        ring
    _ ≤ 2 ^ (unit m e) * 2 ^ 53 := by
        refine mul_le_mul_of_nonneg_right (two_zpow_le ?_) (by positivity)
        rw [unit_eq]
        exact le_max_left _ _

theorem canonical_settle {r : ℕ} (hr : r ≤ 2 ^ 53) {t : ℤ} (ht : -1074 ≤ t)
    (hfull : -1074 < t → 2 ^ 52 ≤ r) : Canonical (settle r t).1 (settle r t).2 := by
  unfold settle
  split
  · exact ⟨by norm_num, by omega, .inl (le_refl _)⟩
  · refine ⟨by omega, ht, ?_⟩
    rcases ht.eq_or_lt with h | h
    · exact .inr h.symm
    · exact .inl (hfull h)

theorem settle_value (r : ℕ) (t : ℤ) :
    ((settle r t).1 : ℚ) * 2 ^ (settle r t).2 = r * 2 ^ t := by
  unfold settle
  split
  · rename_i h
    rw [h, two_zpow_add]
    push_cast
    ring
  · rfl

/-- What is to be rounded is measured in units of the last place that the result will have: there it
is rounded to the nearest natural number, of two to the even one, and settled. -/
theorem exists_roundedMantissa (s : Sign)
    (hx : StandsFor (ExtendedMantissa.ofMantissaAndAccuracy m acc) x) (he : e ≤ unit m e) :
    ∃ (r : ℕ) (y : ℚ), x * 2 ^ e = y * 2 ^ (unit m e) ∧
      roundWithAccuracy .binary64 s m e acc = ofPair s (settle r (unit m e)) ∧
      |(r : ℚ) - y| ≤ 1 / 2 ∧ (|(r : ℚ) - y| = 1 / 2 → r % 2 = 0) ∧ y < 2 ^ 53 ∧
      (-1074 < unit m e → 2 ^ 52 ≤ y) := by
  have ht : -1074 ≤ unit m e := le_max_right _ _
  have hk : ((unit m e - e).toNat : ℤ) = unit m e - e := Int.toNat_of_nonneg (by omega)
  have hy := hx.shiftRight (unit m e - e).toNat
  have hround := hy.roundedMantissa
  have heven := hy.even_roundedMantissa
  have heq := @roundWithAccuracy_eq m e acc s he ht
  have hpos := two_zpow_pos (unit m e)
  have hscale : x * 2 ^ e = x / 2 ^ (unit m e - e).toNat * 2 ^ (unit m e) := by
    rw [← zpow_natCast, hk, zpow_sub₀ two_ne_zero]
    have := hpos.ne'
    have := (two_zpow_pos e).ne'
    field_simp
  obtain ⟨hlow, hhigh⟩ := hx.bounds
  generalize (ExtendedMantissa.ofMantissaAndAccuracy m acc >>>
    (unit m e - e).toNat).roundedMantissa = r at hround heven heq
  generalize x / 2 ^ (unit m e - e).toNat = y at hround heven hscale
  have hbelow : y < 2 ^ 53 := by
    refine lt_of_mul_lt_mul_right ?_ hpos.le
    calc y * 2 ^ (unit m e) = x * 2 ^ e := hscale.symm
      _ < ((m + 1 : ℕ) : ℚ) * 2 ^ e :=
        mul_lt_mul_of_pos_right (by exact_mod_cast hhigh) (two_zpow_pos e)
      _ ≤ 2 ^ 53 * 2 ^ (unit m e) := by
        rw [mul_comm (2 ^ 53)]
        exact lt_two_zpow_unit m e
  have habove : -1074 < unit m e → 2 ^ 52 ≤ y := by
    intro h
    refine le_of_mul_le_mul_right ?_ hpos
    calc (2 : ℚ) ^ 52 * 2 ^ (unit m e) ≤ m * 2 ^ e := by
          rw [mul_comm]
          exact two_zpow_unit_le he h
      _ ≤ x * 2 ^ e := mul_le_mul_of_nonneg_right hlow (two_zpow_pos e).le
      _ = y * 2 ^ (unit m e) := hscale
  have hr : r ≤ 2 ^ 53 := by
    by_contra hlong
    have hq : (2 ^ 53 + 1 : ℚ) ≤ r := by exact_mod_cast Nat.lt_of_not_le hlong
    linarith [(abs_le.mp hround).2]
  exact ⟨r, y, hscale, heq hr, hround, heven, hbelow, habove⟩

/-- A mantissa that is rounded from all that a unit can hold fits it, and fills it if it must. -/
theorem canonical_settle_of_rounded {r : ℕ} {y : ℚ} {t : ℤ} (ht : -1074 ≤ t)
    (hround : |(r : ℚ) - y| ≤ 1 / 2) (hbelow : y < 2 ^ 53) (habove : -1074 < t → 2 ^ 52 ≤ y) :
    Canonical (settle r t).1 (settle r t).2 := by
  obtain ⟨hdown, hup⟩ := abs_le.mp hround
  refine canonical_settle ?_ ht fun h => ?_
  · by_contra hlong
    have hq : (2 ^ 53 + 1 : ℚ) ≤ r := by exact_mod_cast Nat.lt_of_not_le hlong
    linarith
  · by_contra hshort
    have hq : (r : ℚ) ≤ 2 ^ 52 - 1 := by
      rw [le_sub_iff_add_le]
      exact_mod_cast Nat.lt_of_not_le hshort
    linarith [habove h]

/-- Rounding gives a canonical mantissa within half a unit of what was to be rounded. -/
theorem exists_rounded (s : Sign)
    (hx : StandsFor (ExtendedMantissa.ofMantissaAndAccuracy m acc) x) (he : e ≤ unit m e) :
    ∃ p, roundWithAccuracy .binary64 s m e acc = ofPair s p ∧ Canonical p.1 p.2 ∧
      |(p.1 : ℚ) * 2 ^ p.2 - x * 2 ^ e| ≤ 2 ^ (unit m e) / 2 := by
  obtain ⟨r, y, hscale, heq, hround, -, hbelow, habove⟩ := exists_roundedMantissa s hx he
  refine ⟨_, heq, canonical_settle_of_rounded (le_max_right _ _) hround hbelow habove, ?_⟩
  have hpos := two_zpow_pos (unit m e)
  rw [settle_value, hscale, ← sub_mul, abs_mul, abs_of_pos hpos]
  linarith [mul_le_mul_of_nonneg_right hround hpos.le]

end StarSurvey.Double
