import Mathlib.Tactic.GCongr
import StarSurvey.Json.Numeral
import StarSurvey.Proofs.Double.Arithmetic

/-!
# From numerals to doubles

- **Finiteness** (`Numeral.isFinite_value`): whatever value a numeral has, its double is finite.
- **Collecting** (`collect_le`): the collected significand stands for no more than its digits.
- **Range** (`Numeral.exists_magnitude_of_lt`): a numeral that is far enough below the overflow has
  a value. The two roundings of the conversion take their share of the distance.
-/

namespace StarSurvey.Json

open Float.Model (UnpackedFloat)
open Float.Model.UnpackedFloat
open StarSurvey.Double

/-! ## Powers of ten -/

/-- An unpacked float is this natural number. -/
def isNat (n : ℕ) : UnpackedFloat → Bool
  | .finite _ m e _ => m * 2 ^ e.toNat == n * 2 ^ (-e).toNat
  | _ => false

theorem hasMagnitude_of_isNat {n : ℕ} {f : Float} (h : isNat n f.toModel.unpack = true) :
    HasMagnitude f n := by
  have hfinite : f.isFinite = true := by
    show f.toModel.unpack.isFinite = true
    cases hu : f.toModel.unpack with
    | finite s m e hm => rfl
    | zero s => rfl
    | infinity s => rw [hu] at h; cases h
    | notANumber => rw [hu] at h; cases h
  obtain ⟨v, s, p, hp, hc, hmax, rfl⟩ := exists_magnitude hfinite
  refine ⟨s, p, hp, hc, hmax, ?_⟩
  rw [hp] at h
  obtain ⟨-, hpair⟩ | ⟨_, hpair⟩ := ofPair_cases s p
  · rw [hpair] at h
    cases h
  · rw [hpair] at h
    have hnat : p.1 * 2 ^ p.2.toNat = n * 2 ^ (-p.2).toNat := beq_iff_eq.mp h
    have hq : (p.1 : ℚ) * 2 ^ p.2.toNat = n * 2 ^ (-p.2).toNat := by exact_mod_cast hnat
    rw [← zpow_natCast, ← zpow_natCast] at hq
    have hsplit : (2 : ℚ) ^ (p.2.toNat : ℤ) = 2 ^ p.2 * 2 ^ ((-p.2).toNat : ℤ) := by
      rw [← two_zpow_add]
      congr 1
      omega
    rw [hsplit, ← mul_assoc] at hq
    exact (mul_right_cancel₀ (two_zpow_pos _).ne' hq).symm

/-- The small powers are exact. -/
theorem isNat_powerOfTen :
    ∀ e < 23, isNat (10 ^ e) (powerOfTen e).toModel.unpack = true := by
  decide +kernel

theorem ten_pow_308_lt : (10 : ℚ) ^ 308 < overflow := by
  have h : 10 ^ 308 < 18014398509481983 * 2 ^ 970 := by decide +kernel
  rw [overflow, show (970 : ℤ) = (970 : ℕ) from rfl, zpow_natCast,
    show (2 ^ 54 - 1 : ℚ) = (18014398509481983 : ℕ) by norm_num]
  exact_mod_cast h

/-- The powers of ten that are used are finite, and move by no more than `2^-53` of their value. -/
theorem hasMagnitude_powerOfTen {e : ℕ} (he : e ≤ 308) :
    ∃ v, HasMagnitude (powerOfTen e) v ∧ |v - 10 ^ e| ≤ 10 ^ e / 2 ^ 53 := by
  by_cases hsmall : e < 23
  · have hexact := hasMagnitude_of_isNat (isNat_powerOfTen e hsmall)
    rw [Nat.cast_pow, Nat.cast_ofNat] at hexact
    refine ⟨10 ^ e, hexact, ?_⟩
    rw [sub_self, abs_zero]
    positivity
  · have hpower : powerOfTen e =
        packed (roundWithAccuracy .binary64 .positive (2 ^ 53 * 10 ^ e) (-53) .exact) := by
      rw [powerOfTen, Float.ofScientific, dif_neg (by omega)]
      show packed (UnpackedFloat.ofScientific .binary64 1 e) = _
      unfold UnpackedFloat.ofScientific
      rw [dif_neg one_ne_zero, if_neg (show ¬ (e : ℤ) > 2 ^ 11 by omega),
        if_neg (show ¬ (e : ℤ) < -((2 ^ 11 : ℤ) + Nat.log2 1) by omega),
        if_pos (Int.natCast_nonneg e)]
      rfl
    have hvalue : ((2 ^ 53 * 10 ^ e : ℕ) : ℚ) * 2 ^ (-53 : ℤ) = 10 ^ e := by
      push_cast
      rw [zpow_neg]
      field_simp
      rfl
    have hbits : 2 ^ 53 ≤ 2 ^ 53 * 10 ^ e := Nat.le_mul_of_pos_right _ (by positivity)
    have hlog := (Nat.le_log2 (by positivity)).mpr hbits
    have hlt : (10 : ℚ) ^ e < overflow :=
      (pow_le_pow_right₀ (by norm_num) he).trans_lt ten_pow_308_lt
    obtain ⟨v, hv, hclose⟩ := hasMagnitude_rounded_of_normal .positive
      (standsFor_exact (2 ^ 53 * 10 ^ e)) (e := -53)
      (by rw [unit_eq]; omega) (by rw [unit_eq]; omega) (by rwa [hvalue])
    rw [hvalue] at hclose
    exact ⟨v, by rwa [hpower], hclose⟩

/-! ## Finiteness -/

theorem two_le_powerOfTen {e : ℕ} (h1 : 1 ≤ e) (he : e ≤ 308) :
    ∃ w, HasMagnitude (powerOfTen e) w ∧ 2 ≤ w := by
  obtain ⟨w, hw, hclose⟩ := hasMagnitude_powerOfTen he
  have hten : (10 : ℚ) ≤ 10 ^ e := le_self_pow₀ (by norm_num) (by omega)
  have hlow := (abs_le.mp hclose).1
  exact ⟨w, hw, by linarith⟩

/-- Powers of ten only ever make a double smaller. -/
theorem isFinite_divideByPower (steps : ℕ) {f : Float} (hf : f.isFinite = true) {e : ℕ}
    (he : 1 ≤ e) : (divideByPower f e steps).isFinite = true := by
  induction steps generalizing f e with
  | zero => exact hf
  | succ steps ih =>
    obtain ⟨v, hv⟩ := exists_magnitude hf
    unfold divideByPower
    split
    · rename_i hsmall
      obtain ⟨w, hw, hle⟩ := two_le_powerOfTen he hsmall
      exact isFinite_div hv hw hle
    · split
      · exact hf
      · obtain ⟨w, hw, hle⟩ := two_le_powerOfTen (by decide) (le_refl 308)
        exact ih (isFinite_div hv hw hle) (by omega)

theorem isFinite_scale {s : ℕ} {e : ℤ} {f : Float} (h : scale s e = some f) :
    f.isFinite = true := by
  obtain ⟨v, hv, -⟩ := hasMagnitude_toFloat s.toUInt64
  simp only [scale] at h
  split_ifs at h with hneg hmax hinf hzero
  · cases h
    exact isFinite_divideByPower 4 hv.isFinite (by omega)
  · cases h
    obtain ⟨w, hw, -⟩ := hasMagnitude_powerOfTen (show e.natAbs ≤ 308 by omega)
    exact isFinite_mul_of_not_isInf hv hw (Bool.eq_false_of_not_eq_true hinf)
  · cases h
    exact hv.isFinite

theorem Numeral.isFinite_magnitude {n : Numeral} {f : Float} (h : n.magnitude = .ok f) :
    f.isFinite = true := by
  have hscale : ∀ s e, (scale s e).elim (.error 0) .ok = (.ok f : Except ℕ Float) →
      f.isFinite = true := by
    intro s e hs
    cases hse : scale s e with
    | none => rw [hse] at hs; cases hs
    | some g =>
      rw [hse] at hs
      cases hs
      exact isFinite_scale hse
  simp only [magnitude] at h
  split at h
  · exact hscale _ _ h
  · split at h
    · split at h
      · cases h
      · cases h
        decide +kernel
    · exact hscale _ _ h

theorem isFinite_neg {f : Float} (h : f.isFinite = true) : (-f).isFinite = true := by
  obtain ⟨v, hv⟩ := exists_magnitude h
  exact hv.neg.isFinite

/-- Every number that is read has a finite double. -/
theorem Numeral.isFinite_value {n : Numeral} {v : Number} (h : n.value = .ok v) :
    v.toFloat.isFinite = true := by
  unfold value at h
  cases hi : n.integer? with
  | some i =>
    rw [hi] at h
    cases h
    obtain ⟨v, hv, -⟩ := hasMagnitude_toFloat i.natAbs.toUInt64
    show (if i < 0 then -i.natAbs.toUInt64.toFloat else i.natAbs.toUInt64.toFloat).isFinite = true
    split
    · exact hv.neg.isFinite
    · exact hv.isFinite
  | none =>
    rw [hi] at h
    cases hm : n.magnitude with
    | error back => rw [hm] at h; cases h
    | ok f =>
      rw [hm] at h
      cases h
      have hf := isFinite_magnitude hm
      show (if n.negative then -f else f).isFinite = true
      split
      · exact isFinite_neg hf
      · exact hf

/-! ## Collecting -/

/-- The value of digits behind a significand. -/
def valueFrom (s : ℕ) (ds : List UInt8) : ℕ := ds.foldl (fun n d => 10 * n + (d.toNat - 0x30)) s

theorem valueFrom_eq (s : ℕ) (ds : List UInt8) :
    valueFrom s ds = s * 10 ^ ds.length + digitsValue ds := by
  induction ds generalizing s with
  | nil => simp [valueFrom, digitsValue]
  | cons d ds ih =>
    have h : ∀ n, valueFrom n (d :: ds) = valueFrom (10 * n + (d.toNat - 0x30)) ds := fun _ => rfl
    rw [h, ih, show digitsValue (d :: ds) = valueFrom 0 (d :: ds) from rfl, h, ih, List.length_cons]
    ring

theorem digitsValue_append (ds es : List UInt8) :
    digitsValue (ds ++ es) = digitsValue ds * 10 ^ es.length + digitsValue es := by
  rw [← valueFrom_eq]
  exact List.foldl_append

theorem collect_lt {s : ℕ} (hs : s < UInt64.size) (ds : List UInt8) :
    (collect s ds).1 < UInt64.size := by
  induction ds generalizing s with
  | nil => exact hs
  | cons d ds ih =>
    simp only [collect]
    split
    · rename_i hmore
      exact ih hmore
    · exact hs

theorem collect_snd_le (s : ℕ) (ds : List UInt8) : (collect s ds).2 ≤ ds.length := by
  induction ds generalizing s with
  | nil => exact le_refl 0
  | cons d ds ih =>
    simp only [collect, List.length_cons]
    split
    · exact (ih _).trans (Nat.le_succ _)
    · exact le_refl _

/-- What is collected stands for no more than the digits do. -/
theorem collect_le (s : ℕ) (ds : List UInt8) :
    (collect s ds).1 * 10 ^ (collect s ds).2 ≤ valueFrom s ds := by
  induction ds generalizing s with
  | nil => simp [collect, valueFrom]
  | cons d ds ih =>
    simp only [collect]
    split
    · exact ih _
    · rw [valueFrom_eq]
      exact Nat.le_add_right _ _

theorem le_valueFrom (s : ℕ) (ds : List UInt8) : s ≤ valueFrom s ds := by
  rw [valueFrom_eq]
  exact (Nat.le_mul_of_pos_right s (by positivity)).trans (Nat.le_add_right _ _)

/-- Digits that fit are collected to the last. -/
theorem collect_of_lt {s : ℕ} {ds : List UInt8} (h : valueFrom s ds < UInt64.size) :
    collect s ds = (valueFrom s ds, 0) := by
  induction ds generalizing s with
  | nil => rfl
  | cons d ds ih =>
    have hmore : 10 * s + (d.toNat - 0x30) < UInt64.size := (le_valueFrom _ ds).trans_lt h
    simp only [collect]
    rw [if_pos hmore, ih h]
    rfl

theorem digitsValue_lt {ds : List UInt8} (h : ∀ d ∈ ds, isDigit d = true) :
    digitsValue ds < 10 ^ ds.length := by
  induction ds with
  | nil => exact Nat.one_pos
  | cons d ds ih =>
    have hd := h d List.mem_cons_self
    have hlt := ih fun e he => h e (List.mem_cons_of_mem d he)
    simp only [isDigit, Bool.and_eq_true, decide_eq_true_eq, UInt8.le_iff_toNat_le] at hd
    have h9 : d.toNat ≤ 57 := hd.2
    have hmul := Nat.mul_le_mul_right (10 ^ ds.length) (show d.toNat - 0x30 ≤ 9 by omega)
    have heq : digitsValue (d :: ds) = (d.toNat - 0x30) * 10 ^ ds.length + digitsValue ds := by
      rw [← valueFrom_eq]
      show valueFrom (10 * 0 + (d.toNat - 0x30)) ds = _
      rw [Nat.mul_zero, Nat.zero_add]
    rw [heq, List.length_cons, Nat.pow_succ]
    omega

theorem digitsBeyond_eq_none {n : ℕ} {ds : List UInt8} (h : valueFrom n ds ≤ maxExponent) :
    digitsBeyond n ds = none := by
  induction ds generalizing n with
  | nil => rfl
  | cons d ds ih =>
    have hmore : ¬ maxExponent < 10 * n + (d.toNat - 0x30) :=
      Nat.not_lt_of_le ((le_valueFrom _ ds).trans h)
    simp only [digitsBeyond]
    rw [if_neg hmore]
    exact ih h

/-! ## Range -/

theorem overflow_lt_ten_pow : overflow < 10 ^ 309 := by
  have h : 18014398509481983 * 2 ^ 970 < 10 ^ 309 := by decide +kernel
  rw [overflow, show (970 : ℤ) = (970 : ℕ) from rfl, zpow_natCast,
    show (2 ^ 54 - 1 : ℚ) = (18014398509481983 : ℕ) by norm_num]
  exact_mod_cast h

theorem not_isInf_of_isFinite {f : Float} (h : f.isFinite = true) : f.isInf = false := by
  have hu : f.toModel.unpack.isFinite = true := h
  show f.toModel.unpack.isInf = false
  cases hf : f.toModel.unpack with
  | infinity s => rw [hf] at hu; cases hu
  | notANumber => rfl
  | zero s => rfl
  | finite s m e hm => rfl

/-- How much two roundings can add. -/
def slack : ℚ := (1 + 1 / 2 ^ 53) ^ 2

theorem one_lt_slack : 1 < slack := by
  norm_num [slack]

/-- A significand is scaled to a double, if what it stands for is not too near to the overflow. -/
theorem exists_scale {s : ℕ} (hs : s < UInt64.size) {e : ℤ}
    (h : (s : ℚ) * 10 ^ e * slack < overflow) : ∃ f, scale s e = some f := by
  obtain ⟨v, hv, hclose⟩ := hasMagnitude_toFloat s.toUInt64
  rw [UInt64.toNat_ofNat_of_lt' hs] at hclose
  simp only [scale]
  split_ifs with hneg hmax hinf hzero
  · exact ⟨_, rfl⟩
  · obtain ⟨w, hw, hclose'⟩ := hasMagnitude_powerOfTen (show e.natAbs ≤ 308 by omega)
    have hpow : (10 : ℚ) ^ e = 10 ^ e.natAbs := by
      rw [← zpow_natCast, Int.natAbs_of_nonneg (by omega)]
    have hvle : v ≤ s * (1 + 1 / 2 ^ 53) := by
      have := (abs_le.mp hclose).2
      linarith
    have hwle : w ≤ 10 ^ e.natAbs * (1 + 1 / 2 ^ 53) := by
      have := (abs_le.mp hclose').2
      linarith
    have hlt : v * w < overflow := by
      calc v * w ≤ s * (1 + 1 / 2 ^ 53) * (10 ^ e.natAbs * (1 + 1 / 2 ^ 53)) :=
            mul_le_mul hvle hwle hw.nonneg (by positivity)
        _ = s * 10 ^ e * slack := by rw [hpow, slack]; ring
        _ < overflow := h
    rw [not_isInf_of_isFinite (isFinite_mul hv hw hlt)] at hinf
    cases hinf
  · exact ⟨_, rfl⟩
  · exact ⟨_, rfl⟩
  -- beyond `10^308` only a significand of zero is in range, and zero was settled before
  · exfalso
    have hpos : 1 ≤ s := by
      by_contra hs0
      obtain rfl : s = 0 := by omega
      exact hzero (by decide +kernel)
    have hge : (10 : ℚ) ^ 309 ≤ s * 10 ^ e * slack := by
      calc (10 : ℚ) ^ 309 = 1 * 10 ^ (309 : ℤ) * 1 := by rw [one_mul, mul_one]; rfl
        _ ≤ s * 10 ^ e * slack := by
          have hs1 : (1 : ℚ) ≤ s := by exact_mod_cast hpos
          have hpow : (10 : ℚ) ^ (309 : ℤ) ≤ 10 ^ e :=
            zpow_le_zpow_right₀ (by norm_num) (by omega)
          have := one_lt_slack.le
          gcongr
    exact absurd (overflow_lt_ten_pow.trans_le hge) (not_lt_of_gt h)

namespace Numeral

variable (n : Numeral)

/-- What a written exponent adds. -/
def shift : ℤ :=
  match n.exponent with
  | none => 0
  | some x => if x.negative then -(digitsValue x.digits : ℤ) else digitsValue x.digits

/-- The exact magnitude. -/
def exact : ℚ := digitsValue (n.whole ++ n.fraction) * 10 ^ (n.shift - n.fraction.length)

/-- With short whole digits, the significand stands for no more than the digits. -/
theorem significand_le (h : digitsValue n.whole < UInt64.size) :
    n.significand.1 < UInt64.size ∧
      (n.significand.1 : ℚ) * 10 ^ (n.significand.2 + n.shift) ≤ n.exact := by
  have hfront : collect 0 n.whole = (digitsValue n.whole, 0) := collect_of_lt h
  have hsig : n.significand = ((collect (digitsValue n.whole) n.fraction).1,
      (0 : ℤ) - ((n.fraction.length - (collect (digitsValue n.whole) n.fraction).2 : ℕ) : ℤ)) := by
    simp only [significand, hfront]
    rfl
  rw [hsig]
  refine ⟨collect_lt h n.fraction, ?_⟩
  have hle := collect_le (digitsValue n.whole) n.fraction
  have hdropped := collect_snd_le (digitsValue n.whole) n.fraction
  generalize collect (digitsValue n.whole) n.fraction = c at hle hdropped ⊢
  have hle' : (c.1 : ℚ) * 10 ^ c.2 ≤ digitsValue (n.whole ++ n.fraction) := by
    rw [digitsValue_append, ← valueFrom_eq]
    exact_mod_cast hle
  calc (c.1 : ℚ) * 10 ^ ((0 : ℤ) - ((n.fraction.length - c.2 : ℕ) : ℤ) + n.shift)
      = c.1 * 10 ^ c.2 * 10 ^ (n.shift - n.fraction.length) := by
        rw [mul_assoc, ← zpow_natCast, ← zpow_add₀ (by norm_num)]
        congr 2
        omega
    _ ≤ n.exact := mul_le_mul_of_nonneg_right hle' (by positivity)

/-- Few digits are all collected. -/
theorem significand_of_lt (h : digitsValue (n.whole ++ n.fraction) < UInt64.size) :
    n.significand = (digitsValue (n.whole ++ n.fraction), -(n.fraction.length : ℤ)) := by
  rw [digitsValue_append, ← valueFrom_eq] at h ⊢
  have hwhole : collect 0 n.whole = (digitsValue n.whole, 0) :=
    collect_of_lt ((le_valueFrom _ n.fraction).trans_lt h)
  simp only [significand, hwhole, collect_of_lt h, Nat.sub_zero, Nat.cast_zero, zero_sub]

/-- The significand is scaled by its own exponent and the written one. -/
theorem magnitude_eq (hexponent : ∀ x, n.exponent = some x → digitsBeyond 0 x.digits = none) :
    n.magnitude =
      (scale n.significand.1 (n.significand.2 + n.shift)).elim (.error 0) .ok := by
  cases hx : n.exponent with
  | none =>
    simp only [magnitude, shift, hx, add_zero]
  | some x =>
    have hshift : n.significand.2 + n.shift =
        if x.negative then n.significand.2 - digitsValue x.digits
        else n.significand.2 + digitsValue x.digits := by
      simp only [shift, hx]
      split <;> omega
    rw [hshift]
    simp only [magnitude, hx, hexponent x hx]

/-- A numeral that is far enough below the overflow has a magnitude. -/
theorem exists_magnitude_of_lt (hwhole : digitsValue n.whole < UInt64.size)
    (hexponent : ∀ x, n.exponent = some x → digitsBeyond 0 x.digits = none)
    (h : n.exact * slack < overflow) : ∃ f, n.magnitude = .ok f := by
  obtain ⟨hs, hle⟩ := n.significand_le hwhole
  have hlt : (n.significand.1 : ℚ) * 10 ^ (n.significand.2 + n.shift) * slack < overflow :=
    (mul_le_mul_of_nonneg_right hle (zero_lt_one.trans one_lt_slack).le).trans_lt h
  obtain ⟨f, hf⟩ := exists_scale hs hlt
  exact ⟨f, by rw [n.magnitude_eq hexponent, hf]; rfl⟩

end Numeral

end StarSurvey.Json
