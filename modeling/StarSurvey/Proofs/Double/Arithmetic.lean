import StarSurvey.Proofs.Double.Packing

/-!
# Arithmetic on doubles

When a result is finite, and how far it is from the exact one.

- **Magnitudes** (`HasMagnitude`): a finite float and its distance from zero, which is below the
  overflow (`HasMagnitude.lt`).
- **Operations**: integers, products and quotients of finite floats (`hasMagnitude_toFloat`,
  `isFinite_mul`, `isFinite_mul_of_not_isInf`, `isFinite_div`).
-/

namespace StarSurvey.Double

open Float.Model (Format UnpackedFloat totalExponent)
open Float.Model.UnpackedFloat

/-! ## Magnitudes -/

/-- What is below this rounds to a finite double. -/
def overflow : ℚ := (2 ^ 54 - 1) * 2 ^ (970 : ℤ)

theorem two_zpow_970_le_overflow : (2 : ℚ) ^ (970 : ℤ) ≤ overflow :=
  le_mul_of_one_le_left (two_zpow_pos 970).le (by norm_num)

theorem two_zpow_971 : (2 : ℚ) ^ (971 : ℤ) = 2 * 2 ^ (970 : ℤ) := by
  rw [show (971 : ℤ) = 1 + 970 by rfl, two_zpow_add, zpow_one]

theorem two_zpow_972 : (2 : ℚ) ^ (972 : ℤ) = 4 * 2 ^ (970 : ℤ) := by
  rw [show (972 : ℤ) = 2 + 970 by rfl, two_zpow_add]
  norm_num

theorem two_zpow_1024 : (2 : ℚ) ^ (1024 : ℤ) = 2 ^ 54 * 2 ^ (970 : ℤ) := by
  rw [show (1024 : ℤ) = 54 + 970 by rfl, two_zpow_add]
  rfl

/-- A float is finite and has this distance from zero. -/
def HasMagnitude (f : Float) (v : ℚ) : Prop :=
  ∃ s p, f.toModel.unpack = ofPair s p ∧ Canonical p.1 p.2 ∧ p.2 ≤ 971 ∧ v = p.1 * 2 ^ p.2

/-- The float of an unpacked one. -/
def packed (u : UnpackedFloat) : Float := .ofModel (.pack u)

theorem unpack_packed (u : UnpackedFloat) :
    (packed u).toModel.unpack = UnpackedFloat.unpack .binary64 (pack .binary64 u) := rfl

theorem HasMagnitude.isFinite {f : Float} {v : ℚ} (h : HasMagnitude f v) : f.isFinite = true := by
  obtain ⟨s, p, hp, -⟩ := h
  show f.toModel.unpack.isFinite = true
  rw [hp]
  exact isFinite_ofPair s p

/-- The finite floats are those that have a magnitude. -/
theorem exists_magnitude {f : Float} (h : f.isFinite = true) : ∃ v, HasMagnitude f v := by
  have hu : f.toModel.unpack.isFinite = true := h
  rcases unpack_cases f.toModel.toBits.toBitVec with hb | ⟨s, hb⟩ | ⟨s, p, hb, hc, hmax⟩
  · rw [show f.toModel.unpack = _ from hb] at hu
    cases hu
  · rw [show f.toModel.unpack = _ from hb] at hu
    cases hu
  · exact ⟨_, s, p, hb, hc, hmax, rfl⟩

theorem hasMagnitude_packed (s : Sign) {p : ℕ × ℤ} (hc : Canonical p.1 p.2) (hmax : p.2 ≤ 971) :
    HasMagnitude (packed (ofPair s p)) (p.1 * 2 ^ p.2) := by
  refine ⟨s, p, ?_, hc, hmax, rfl⟩
  rw [unpack_packed, unpack_pack_ofPair s hc, if_pos hmax]

theorem hasMagnitude_zero (s : Sign) : HasMagnitude (packed (.zero s)) 0 := by
  have h := hasMagnitude_packed s (p := (0, -1074)) ⟨by norm_num, le_refl _, .inr rfl⟩ (by norm_num)
  rw [Nat.cast_zero, zero_mul] at h
  exact h

theorem HasMagnitude.nonneg {f : Float} {v : ℚ} (h : HasMagnitude f v) : 0 ≤ v := by
  obtain ⟨s, p, -, -, -, rfl⟩ := h
  exact mul_nonneg (Nat.cast_nonneg _) (two_zpow_pos _).le

theorem HasMagnitude.lt {f : Float} {v : ℚ} (h : HasMagnitude f v) : v < overflow := by
  obtain ⟨s, p, -, hc, hmax, rfl⟩ := h
  have hm : (p.1 : ℚ) ≤ 2 ^ 53 - 1 := by
    rw [le_sub_iff_add_le]
    exact_mod_cast hc.short
  calc (p.1 : ℚ) * 2 ^ p.2 ≤ (2 ^ 53 - 1) * 2 ^ (971 : ℤ) :=
        mul_le_mul hm (two_zpow_le hmax) (two_zpow_pos _).le (by norm_num)
    _ < overflow := by
        have hpos := two_zpow_pos 970
        rw [overflow, two_zpow_971]
        generalize (2 : ℚ) ^ (970 : ℤ) = u at hpos ⊢
        linarith

theorem unpack_neg {f : Float} {s : Sign} {p : ℕ × ℤ} (hp : f.toModel.unpack = ofPair s p)
    (hc : Canonical p.1 p.2) (hmax : p.2 ≤ 971) : (-f).toModel.unpack = ofPair (-s) p := by
  have hneg : (-f) = packed (ofPair (-s) p) := by
    show packed (f.toModel.unpack.neg) = _
    rw [hp]
    unfold ofPair
    by_cases h : p.1 = 0
    · rw [dif_pos h, dif_pos h]
      rfl
    · rw [dif_neg h, dif_neg h]
      rfl
  rw [hneg, unpack_packed, unpack_pack_ofPair (-s) hc, if_pos hmax]

theorem HasMagnitude.neg {f : Float} {v : ℚ} (h : HasMagnitude f v) : HasMagnitude (-f) v := by
  obtain ⟨s, p, hp, hc, hmax, rfl⟩ := h
  exact ⟨-s, p, unpack_neg hp hc hmax, hc, hmax, rfl⟩

/-- A canonical value that is not beyond all doubles has an exponent that fits. -/
theorem Canonical.le_of_lt {m : ℕ} {e : ℤ} (hc : Canonical m e)
    (h : (m : ℚ) * 2 ^ e < 2 ^ (1024 : ℤ)) : e ≤ 971 := by
  by_contra hbig
  have hm : (2 ^ 52 : ℚ) ≤ m := by exact_mod_cast hc.full.resolve_right (by omega)
  have hle : (2 : ℚ) ^ (1024 : ℤ) ≤ m * 2 ^ e := by
    calc (2 : ℚ) ^ (1024 : ℤ) = 2 ^ 52 * 2 ^ (972 : ℤ) := by
          rw [two_zpow_1024, two_zpow_972]
          ring
      _ ≤ m * 2 ^ e := mul_le_mul hm (two_zpow_le (by omega)) (two_zpow_pos _).le (Nat.cast_nonneg _)
  exact absurd h (not_lt.mpr hle)

/-- What is below the threshold rounds to a float within half a unit. -/
theorem hasMagnitude_rounded (s : Sign)
    (hx : StandsFor (ExtendedMantissa.ofMantissaAndAccuracy m acc) x) (he : e ≤ unit m e)
    (hlt : x * 2 ^ e < overflow) :
    ∃ v, HasMagnitude (packed (roundWithAccuracy .binary64 s m e acc)) v ∧
      |v - x * 2 ^ e| ≤ 2 ^ (unit m e) / 2 := by
  obtain ⟨p, hp, hc, hclose⟩ := exists_rounded s hx he
  have hunit : unit m e ≤ 971 := by
    by_contra hbig
    have hfull := two_zpow_unit_le he (by omega)
    have hxe := mul_le_mul_of_nonneg_right hx.bounds.1 (two_zpow_pos e).le
    have hunit : (4 : ℚ) * 2 ^ (970 : ℤ) ≤ 2 ^ unit m e := by
      rw [← two_zpow_972]
      exact two_zpow_le (by omega)
    have hpos := two_zpow_pos 970
    rw [overflow] at hlt
    generalize (2 : ℚ) ^ (970 : ℤ) = u at hlt hpos hunit
    linarith
  have hvalue : (p.1 : ℚ) * 2 ^ p.2 < 2 ^ (1024 : ℤ) := by
    have hhalf := two_zpow_le hunit
    rw [two_zpow_971] at hhalf
    rw [two_zpow_1024]
    rw [overflow] at hlt
    generalize (2 : ℚ) ^ (970 : ℤ) = u at hlt hhalf ⊢
    linarith [(abs_le.mp hclose).2]
  rw [hp]
  exact ⟨_, hasMagnitude_packed s hc (hc.le_of_lt hvalue), hclose⟩

/-- A normal number moves by no more than `2^-53` of its value. -/
theorem hasMagnitude_rounded_of_normal (s : Sign)
    (hx : StandsFor (ExtendedMantissa.ofMantissaAndAccuracy m acc) x) (he : e ≤ unit m e)
    (hnormal : -1074 < unit m e) (hlt : x * 2 ^ e < overflow) :
    ∃ v, HasMagnitude (packed (roundWithAccuracy .binary64 s m e acc)) v ∧
      |v - x * 2 ^ e| ≤ x * 2 ^ e / 2 ^ 53 := by
  obtain ⟨v, hv, hclose⟩ := hasMagnitude_rounded s hx he hlt
  refine ⟨v, hv, hclose.trans ?_⟩
  have hfull := two_zpow_unit_le he hnormal
  have hxe := mul_le_mul_of_nonneg_right hx.bounds.1 (two_zpow_pos e).le
  generalize (2 : ℚ) ^ unit m e = u at hfull ⊢
  rw [div_le_div_iff₀ two_pos (by positivity)]
  linarith

/-! ## Integers -/

theorem log2_mul_two_pow {n : ℕ} (hn : n ≠ 0) (k : ℕ) : (n * 2 ^ k).log2 = n.log2 + k := by
  induction k with
  | zero => simp
  | succ k ih =>
    rw [pow_succ, ← mul_assoc, mul_comm _ 2, Nat.log2_two_mul (by positivity), ih]
    rfl

/-- An integer of 64 bits is made a double by one rounding. -/
theorem toFloat_eq {n : UInt64} (hn : n.toNat ≠ 0) : ∃ (m : ℕ) (e : ℤ), e ≤ unit m e ∧
    -1074 < unit m e ∧ (m : ℚ) * 2 ^ e = n.toNat ∧
      n.toFloat = packed (roundWithAccuracy .binary64 .positive m e .exact) := by
  show ∃ (m : ℕ) (e : ℤ), _ ∧ _ ∧ _ ∧
    packed (UnpackedFloat.normalize .binary64 (n.toNat : ℤ) 0 .positive) = _
  generalize n.toNat = n at hn
  have hround : UnpackedFloat.normalize .binary64 (n : ℤ) 0 .positive =
      UnpackedFloat.round .binary64 .positive n 0 := by
    have hc : compare (n : ℤ) 0 = .gt := by
      rw [Int.compare_eq_gt]
      omega
    simp only [UnpackedFloat.normalize, hc, Int.toNat_natCast]
  have hunit : -1074 < unit n 0 := by
    rw [unit_eq]
    omega
  let k := (0 - unit n 0).toNat
  have hdecrease : UnpackedFloat.round .binary64 .positive n 0 =
      roundWithAccuracy .binary64 .positive (n * 2 ^ k) (0 - k) .exact := by
    rw [← Nat.shiftLeft_eq]
    rfl
  have hsame : unit (n * 2 ^ k) (0 - k) = unit n 0 := by
    rw [unit_eq, unit_eq, log2_mul_two_pow hn]
    push_cast
    congr 1
    ring
  have hvalue : ((n * 2 ^ k : ℕ) : ℚ) * 2 ^ (0 - k : ℤ) = n := by
    rw [zero_sub, zpow_neg, zpow_natCast]
    push_cast
    field_simp
  exact ⟨n * 2 ^ k, 0 - k, by rw [hsame]; omega, by rwa [hsame], hvalue, by rw [hround, hdecrease]⟩

/-- It is finite, and moves by no more than `2^-53` of its value. -/
theorem hasMagnitude_toFloat (n : UInt64) :
    ∃ v, HasMagnitude n.toFloat v ∧ |v - n.toNat| ≤ n.toNat / 2 ^ 53 := by
  by_cases hz : n.toNat = 0
  · have hn : n.toFloat = packed (.zero .positive) := by
      obtain rfl : n = 0 := UInt64.toNat_inj.mp hz
      rfl
    rw [hn, hz]
    exact ⟨0, hasMagnitude_zero .positive, by simp⟩
  · obtain ⟨m, e, he, hnormal, hvalue, heq⟩ := toFloat_eq hz
    have hlt : (m : ℚ) * 2 ^ e < overflow := by
      rw [hvalue]
      calc (n.toNat : ℚ) < 2 ^ (64 : ℤ) := by exact_mod_cast n.toNat_lt
        _ ≤ 2 ^ (970 : ℤ) := two_zpow_le (by norm_num)
        _ ≤ overflow := two_zpow_970_le_overflow
    obtain ⟨v, hv, hclose⟩ := hasMagnitude_rounded_of_normal .positive (standsFor_exact m) he
      hnormal hlt
    rw [hvalue] at hclose
    exact ⟨v, by rwa [heq], hclose⟩

/-! ## Products -/

theorem Canonical.add_le_unit {m n : ℕ} {e k : ℤ} (h : Canonical m e) (h' : Canonical n k)
    (hm : m ≠ 0) (hn : n ≠ 0) : e + k ≤ unit (m * n) (e + k) := by
  rw [unit_eq]
  by_cases hfull : 2 ^ 52 ≤ m * n
  · have := (Nat.le_log2 (mul_ne_zero hm hn)).mpr hfull
    omega
  · have he : e = -1074 := h.full.resolve_left fun hf =>
      hfull (hf.trans (Nat.le_mul_of_pos_right m (Nat.pos_of_ne_zero hn)))
    have hk : k = -1074 := h'.full.resolve_left fun hf =>
      hfull (hf.trans (Nat.le_mul_of_pos_left n (Nat.pos_of_ne_zero hm)))
    omega

theorem mul_ofPair (s t : Sign) (p q : ℕ × ℤ) :
    UnpackedFloat.mul .binary64 (ofPair s p) (ofPair t q) =
      if p.1 = 0 ∨ q.1 = 0 then .zero (s * t)
      else roundWithAccuracy .binary64 (s * t) (p.1 * q.1) (p.2 + q.2) .exact := by
  unfold ofPair
  by_cases hp : p.1 = 0
  · by_cases hq : q.1 = 0
    · rw [dif_pos hp, dif_pos hq, if_pos (.inl hp)]
      rfl
    · rw [dif_pos hp, dif_neg hq, if_pos (.inl hp)]
      rfl
  · by_cases hq : q.1 = 0
    · rw [dif_neg hp, dif_pos hq, if_pos (.inr hq)]
      rfl
    · rw [dif_neg hp, dif_neg hq, if_neg (not_or_intro hp hq)]
      rfl

/-- A product is a zero or one rounding away from the exact product. -/
theorem mul_cases {f g : Float} {s t : Sign} {p q : ℕ × ℤ} (hp : f.toModel.unpack = ofPair s p)
    (hq : g.toModel.unpack = ofPair t q) (hcp : Canonical p.1 p.2) (hcq : Canonical q.1 q.2) :
    (p.1 = 0 ∨ q.1 = 0) ∧ f * g = packed (.zero (s * t)) ∨
    ∃ m e, StandsFor (ExtendedMantissa.ofMantissaAndAccuracy m .exact) m ∧ e ≤ unit m e ∧
      (m : ℚ) * 2 ^ e = p.1 * 2 ^ p.2 * (q.1 * 2 ^ q.2) ∧
      f * g = packed (roundWithAccuracy .binary64 (s * t) m e .exact) := by
  have hmul : f * g = packed (UnpackedFloat.mul .binary64 (ofPair s p) (ofPair t q)) := by
    rw [← hp, ← hq]
    rfl
  rw [mul_ofPair] at hmul
  by_cases hz : p.1 = 0 ∨ q.1 = 0
  · rw [if_pos hz] at hmul
    exact .inl ⟨hz, hmul⟩
  · rw [if_neg hz] at hmul
    rw [not_or] at hz
    refine .inr ⟨p.1 * q.1, p.2 + q.2, standsFor_exact _, hcp.add_le_unit hcq hz.1 hz.2, ?_, hmul⟩
    rw [two_zpow_add]
    push_cast
    ring

section Product

variable {f g : Float} {v w : ℚ} (hf : HasMagnitude f v) (hg : HasMagnitude g w)

include hf hg

/-- A product that is not infinite is finite. -/
theorem isFinite_mul_of_not_isInf (h : (f * g).isInf = false) : (f * g).isFinite = true := by
  obtain ⟨s, p, hp, hcp, -, -⟩ := hf
  obtain ⟨t, q, hq, hcq, -, -⟩ := hg
  obtain ⟨-, hmul⟩ | ⟨m, e, hx, he, -, hmul⟩ := mul_cases hp hq hcp hcq
  · rw [hmul]
    exact (hasMagnitude_zero _).isFinite
  · obtain ⟨r, hr, hc, -⟩ := exists_rounded (s * t) hx he
    rw [hmul, hr] at h ⊢
    by_cases hmax : r.2 ≤ 971
    · exact (hasMagnitude_packed _ hc hmax).isFinite
    · have hinf : (packed (ofPair (s * t) r)).toModel.unpack = .infinity (s * t) := by
        rw [unpack_packed, unpack_pack_ofPair _ hc, if_neg hmax]
      have hisInf : (packed (ofPair (s * t) r)).toModel.unpack.isInf = false := h
      rw [hinf] at hisInf
      cases hisInf

/-- A product that is not beyond all doubles is finite. -/
theorem isFinite_mul (h : v * w < overflow) : (f * g).isFinite = true := by
  obtain ⟨s, p, hp, hcp, -, rfl⟩ := hf
  obtain ⟨t, q, hq, hcq, -, rfl⟩ := hg
  obtain ⟨-, hmul⟩ | ⟨m, e, hx, he, hvalue, hmul⟩ := mul_cases hp hq hcp hcq
  · rw [hmul]
    exact (hasMagnitude_zero _).isFinite
  · obtain ⟨y, hy, -⟩ := hasMagnitude_rounded (s * t) hx he (by rwa [hvalue])
    rw [hmul]
    exact hy.isFinite

end Product

/-! ## Quotients -/

/-- The quotient of two mantissas is taken with enough digits for the rounding. -/
theorem le_unit_quotient {m n : ℕ} (hm : m ≠ 0) (hn : n ≠ 0) {e k t : ℤ} (hle : t ≤ e - k)
    (ht : t ≤ max ((m.log2 : ℤ) + e - n.log2 - k - 53) (-1074)) :
    t ≤ unit (m * 2 ^ (e - k - t).toNat / n) t := by
  rw [unit_eq]
  rcases le_max_iff.mp ht with ht | ht
  · have hbits : 2 ^ 52 ≤ m * 2 ^ (e - k - t).toNat / n := by
      rw [Nat.le_div_iff_mul_le (Nat.pos_of_ne_zero hn)]
      calc 2 ^ 52 * n ≤ 2 ^ 52 * 2 ^ (n.log2 + 1) := Nat.mul_le_mul_left _ Nat.lt_log2_self.le
        _ = 2 ^ (52 + (n.log2 + 1)) := (pow_add ..).symm
        _ ≤ 2 ^ (m.log2 + (e - k - t).toNat) := Nat.pow_le_pow_right two_pos (by omega)
        _ = 2 ^ m.log2 * 2 ^ (e - k - t).toNat := pow_add ..
        _ ≤ m * 2 ^ (e - k - t).toNat := Nat.mul_le_mul_right _ (Nat.log2_self_le hm)
    have := (Nat.le_log2 (by omega)).mpr hbits
    omega
  · omega

theorem div_ofPair (s t : Sign) {p q : ℕ × ℤ} (hp : p.1 ≠ 0) (hq : q.1 ≠ 0) :
    ∃ k, k ≤ p.2 - q.2 ∧
      k ≤ max ((p.1.log2 : ℤ) + p.2 - q.1.log2 - q.2 - 53) (-1074) ∧
      UnpackedFloat.div .binary64 (ofPair s p) (ofPair t q) =
        roundWithAccuracy .binary64 (s / t) (p.1 * 2 ^ (p.2 - q.2 - k).toNat / q.1) k
          (accuracyOfFraction (p.1 * 2 ^ (p.2 - q.2 - k).toNat % q.1) q.1) := by
  refine ⟨min (p.2 - q.2) (Format.binary64.targetExponent
    (totalExponent p.1 p.2 - totalExponent q.1 q.2)), min_le_left _ _, ?_, ?_⟩
  · refine (min_le_right _ _).trans (le_of_eq ?_)
    show max (((p.1.log2 : ℤ) + 1 + p.2 - ((q.1.log2 : ℤ) + 1 + q.2)) - 53) (-1074) = _
    congr 1
    ring
  · rw [← Nat.shiftLeft_eq]
    rw [ofPair, ofPair, dif_neg hp, dif_neg hq]
    rfl

/-- A quotient by what is not zero is a zero or one rounding away from the exact quotient. -/
theorem div_cases {f g : Float} {s t : Sign} {p q : ℕ × ℤ} (hp : f.toModel.unpack = ofPair s p)
    (hq : g.toModel.unpack = ofPair t q) (hq0 : q.1 ≠ 0) :
    p.1 = 0 ∧ f / g = packed (.zero (s / t)) ∨
    ∃ m e acc x, StandsFor (ExtendedMantissa.ofMantissaAndAccuracy m acc) x ∧ e ≤ unit m e ∧
      x * 2 ^ e = p.1 * 2 ^ p.2 / (q.1 * 2 ^ q.2) ∧
      f / g = packed (roundWithAccuracy .binary64 (s / t) m e acc) := by
  have hdiv : f / g = packed (UnpackedFloat.div .binary64 (ofPair s p) (ofPair t q)) := by
    rw [← hp, ← hq]
    rfl
  rw [hdiv]
  by_cases hp0 : p.1 = 0
  · refine .inl ⟨hp0, ?_⟩
    rw [ofPair, ofPair, dif_pos hp0, dif_neg hq0]
    rfl
  · obtain ⟨k, hle, hk, hround⟩ := div_ofPair s t hp0 hq0
    refine .inr ⟨_, k, _, _, standsFor_quotient (p.1 * 2 ^ (p.2 - q.2 - k).toNat)
      (Nat.pos_of_ne_zero hq0), le_unit_quotient hp0 hq0 hle hk, ?_, by rw [hround]⟩
    have hn : ((p.2 - q.2 - k).toNat : ℤ) = p.2 - q.2 - k := Int.toNat_of_nonneg (by omega)
    push_cast
    rw [← zpow_natCast, hn, zpow_sub₀ two_ne_zero, zpow_sub₀ two_ne_zero]
    field_simp

/-- A quotient by two or more is finite. -/
theorem isFinite_div {f g : Float} {v w : ℚ} (hf : HasMagnitude f v) (hg : HasMagnitude g w)
    (hw : 2 ≤ w) : (f / g).isFinite = true := by
  obtain ⟨s, p, hp, -, -, rfl⟩ := id hf
  obtain ⟨t, q, hq, -, -, rfl⟩ := hg
  have hq0 : q.1 ≠ 0 := by
    intro h
    rw [h] at hw
    norm_num at hw
  rcases div_cases hp hq hq0 with ⟨-, hzero⟩ | ⟨m, e, acc, x, hx, he, hvalue, hround⟩
  · rw [hzero]
    exact (hasMagnitude_zero _).isFinite
  · have hlt : x * 2 ^ e < overflow := by
      rw [hvalue]
      exact (div_le_self hf.nonneg (by linarith)).trans_lt hf.lt
    obtain ⟨y, hy, -⟩ := hasMagnitude_rounded (s / t) hx he hlt
    rw [hround]
    exact hy.isFinite

end StarSurvey.Double
