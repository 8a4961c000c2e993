import StarSurvey.Proofs.Decimal.Shortest
import StarSurvey.Proofs.Double.Arithmetic

/-!
# The reals that round to a double

- **Rounding** (`roundWithAccuracy_of_contains`): whatever is in the interval rounds to the double.
- **Operations** (`hasValue_toFloat`, `unpack_mul_of_contains`, `unpack_div_of_contains`): short
  integers are exact, and products and quotients of exact operands are rounded once.
-/

namespace StarSurvey

open Decimal.Digits (Interval two_zpow_sub_two)

namespace Double

open Float.Model (Format UnpackedFloat totalExponent)
open Float.Model.UnpackedFloat

variable {m n : ℕ} {e k t : ℤ} {acc : Accuracy} {x y : ℚ}

theorem le_low (hn : 0 < n) (k : ℤ) : (4 * n - 2 : ℚ) ≤ (Interval.of n k).low := by
  rw [Interval.low_of hn]
  split
  · linarith
  · exact le_rfl

/-- An end of an interval in units. -/
theorem quarters (a : ℕ) (k t : ℤ) :
    (a : ℚ) * 2 ^ (k - 2) = a / 4 * 2 ^ (k - t) * 2 ^ t := by
  have hsplit : (2 : ℚ) ^ k = 2 ^ (k - t) * 2 ^ t := by rw [← two_zpow_add, sub_add_cancel]
  rw [two_zpow_sub_two, hsplit]
  ring

/-- The nearest mantissa to what is in the interval is that of the double, at the same unit. -/
theorem settle_of_contains_same {r : ℕ} (hround : |(r : ℚ) - y| ≤ 1 / 2)
    (heven : |(r : ℚ) - y| = 1 / 2 → r % 2 = 0) (hn : 0 < n) (hc : Canonical n t)
    (hin : (Interval.of n t).Contains t (y * 2 ^ t)) : settle r t = (n, t) := by
  have hpos := two_zpow_pos t
  obtain ⟨hdown, hup⟩ := abs_le.mp hround
  have hlow := le_low hn t
  have hhigh := Interval.high_of n t
  have hlower := hin.lower
  have hupper := hin.upper
  have hinner := hin.inner
  simp only [quarters _ t t, sub_self, zpow_zero, mul_one] at hlower hupper hinner
  rw [hhigh] at hupper hinner
  have hlower := le_of_mul_le_mul_right hlower hpos
  have hupper := le_of_mul_le_mul_right hupper hpos
  have hodd : n % 2 = 1 → ((Interval.of n t).low : ℚ) / 4 < y ∧ y < (4 * n + 2) / 4 := by
    intro h
    obtain ⟨hl, hh⟩ := hinner (by simp [Interval.of, h])
    exact ⟨lt_of_mul_lt_mul_right hl hpos.le, lt_of_mul_lt_mul_right hh hpos.le⟩
  have hne_above : r ≠ n + 1 := by
    rintro rfl
    push_cast at hdown hup heven
    have hmiddle : y = n + 1 / 2 := by linarith
    have hev := heven (by rw [hmiddle, abs_of_nonneg (by linarith)]; ring)
    have := (hodd (by omega)).2
    linarith
  have hne_below : n ≠ r + 1 := by
    rintro rfl
    push_cast at hlow hhigh hupper hodd
    have hmiddle : y = r + 1 / 2 := by linarith
    have hev := heven (by rw [hmiddle, abs_sub_comm, abs_of_nonneg (by linarith)]; ring)
    have := (hodd (by omega)).1
    linarith
  have hr : r = n := by
    have h1 : (r : ℚ) ≤ n + 1 := by linarith
    have h2 : (n : ℚ) ≤ r + 1 := by linarith
    have h1' : r ≤ n + 1 := by exact_mod_cast h1
    have h2' : n ≤ r + 1 := by exact_mod_cast h2
    omega
  have hshort := hc.short
  rw [hr, settle, if_neg (by omega)]

/-- What is in the interval of a double of a greater unit is just below a power of two. -/
theorem eq_of_contains_greater (ht : -1074 ≤ t) (hbelow : y < 2 ^ 53) (hn : 0 < n)
    (hc : Canonical n k) (hk : t < k) (hin : (Interval.of n k).Contains k (y * 2 ^ t)) :
    n = 2 ^ 52 ∧ k = t + 1 ∧ 2 ^ 53 - 1 / 2 ≤ y := by
  have hlower := hin.lower
  rw [quarters _ k t] at hlower
  have hlower := le_of_mul_le_mul_right hlower (two_zpow_pos t)
  have hstep : (2 : ℚ) ≤ 2 ^ (k - t) := by
    calc (2 : ℚ) = 2 ^ (1 : ℤ) := (zpow_one 2).symm
      _ ≤ 2 ^ (k - t) := two_zpow_le (by omega)
  have hn' : n = 2 ^ 52 := by
    have hfull : 2 ^ 52 ≤ n := hc.full.resolve_right (by omega)
    have hlow := le_low hn k
    by_contra hne
    have hq : (2 ^ 52 + 1 : ℚ) ≤ n := by
      have : 2 ^ 52 + 1 ≤ n := by omega
      exact_mod_cast this
    have : (2 ^ 52 + 1 / 2 : ℚ) * 2 ≤ (Interval.of n k).low / 4 * 2 ^ (k - t) :=
      mul_le_mul (by linarith) hstep two_pos.le (by positivity)
    linarith
  have hlow : ((Interval.of n k).low : ℚ) = 4 * 2 ^ 52 - 1 := by
    rw [Interval.low_of hn, if_pos ⟨hn', by omega⟩, hn']
    norm_num
  rw [hlow] at hlower
  have hone : k = t + 1 := by
    by_contra hne
    have hfour : (4 : ℚ) ≤ 2 ^ (k - t) := by
      calc (4 : ℚ) = 2 ^ (2 : ℤ) := by norm_num
        _ ≤ 2 ^ (k - t) := two_zpow_le (by omega)
    linarith
  subst hone
  rw [add_sub_cancel_left, zpow_one] at hlower
  exact ⟨hn', rfl, by linarith⟩

/-- Half a unit below a power of two it is the even mantissa that is taken, which is too long. -/
theorem settle_of_contains_greater {r : ℕ} (ht : -1074 ≤ t) (hround : |(r : ℚ) - y| ≤ 1 / 2)
    (heven : |(r : ℚ) - y| = 1 / 2 → r % 2 = 0) (hbelow : y < 2 ^ 53) (hn : 0 < n)
    (hc : Canonical n k) (hk : t < k) (hin : (Interval.of n k).Contains k (y * 2 ^ t)) :
    settle r t = (n, k) := by
  obtain ⟨rfl, rfl, hge⟩ := eq_of_contains_greater ht hbelow hn hc hk hin
  obtain ⟨hdown, hup⟩ := abs_le.mp hround
  have hr : r = 2 ^ 53 := by
    have hle : (r : ℚ) < 2 ^ 53 + 1 := by linarith
    have hle : r < 2 ^ 53 + 1 := by exact_mod_cast hle
    have hge : (2 ^ 53 : ℚ) ≤ r + 1 := by linarith
    have hge : 2 ^ 53 ≤ r + 1 := by exact_mod_cast hge
    by_contra hne
    obtain rfl : r = 2 ^ 53 - 1 := by omega
    norm_num at hdown hup heven
    have hmiddle : y = 18014398509481983 / 2 := by linarith
    rw [hmiddle] at heven
    norm_num at heven
  rw [hr, settle, if_pos rfl]

/-- Nothing in the interval of a double of a smaller unit is rounded at the greater one. -/
theorem not_contains_of_less (habove : 2 ^ 52 ≤ y) (hc : Canonical n k)
    (hk : k < t) : ¬ (Interval.of n k).Contains k (y * 2 ^ t) := by
  intro hin
  have hupper := hin.upper
  rw [quarters _ k t] at hupper
  have hupper := le_of_mul_le_mul_right hupper (two_zpow_pos t)
  have hstep : (2 : ℚ) ^ (k - t) ≤ 1 / 2 := by
    calc (2 : ℚ) ^ (k - t) ≤ 2 ^ (-1 : ℤ) := two_zpow_le (by omega)
      _ = 1 / 2 := by norm_num
  have hhigh : ((Interval.of n k).high : ℚ) ≤ 4 * 2 ^ 53 - 2 := by
    have hshort : (n : ℚ) + 1 ≤ 2 ^ 53 := by exact_mod_cast hc.short
    rw [Interval.high_of]
    linarith
  have : ((Interval.of n k).high : ℚ) / 4 * 2 ^ (k - t) ≤ (4 * 2 ^ 53 - 2) / 4 * (1 / 2) :=
    mul_le_mul (by linarith) hstep (two_zpow_pos _).le (by norm_num)
  linarith

/-- Whatever is in the interval around a double rounds to it. -/
theorem roundWithAccuracy_of_contains (s : Sign)
    (hx : StandsFor (ExtendedMantissa.ofMantissaAndAccuracy m acc) x) (he : e ≤ unit m e)
    (hn : 0 < n) (hc : Canonical n k) (hin : (Interval.of n k).Contains k (x * 2 ^ e)) :
    roundWithAccuracy .binary64 s m e acc = ofPair s (n, k) := by
  obtain ⟨r, y, hscale, heq, hround, heven, hbelow, habove⟩ := exists_roundedMantissa s hx he
  have ht : -1074 ≤ unit m e := le_max_right _ _
  rw [hscale] at hin
  rw [heq]
  generalize unit m e = t at *
  rcases lt_trichotomy k t with hk | rfl | hk
  · have := hc.least
    exact absurd hin (not_contains_of_less (habove (by omega)) hc hk)
  · rw [settle_of_contains_same hround heven hn hc hin]
  · rw [settle_of_contains_greater ht hround heven hbelow hn hc hk hin]

/-! ## Exact operands -/

/-- A float has no sign and this exact value. -/
def HasValue (f : Float) (v : ℚ) : Prop :=
  ∃ p, f.toModel.unpack = ofPair .positive p ∧ Canonical p.1 p.2 ∧ p.2 ≤ 971 ∧ v = p.1 * 2 ^ p.2

theorem contains_self (hn : 0 < n) (k : ℤ) : (Interval.of n k).Contains k (n * 2 ^ k) := by
  have hpos := two_zpow_pos k
  exact Interval.contains_of_near hn (by linarith) (fun _ => by linarith) (by linarith)

theorem pos_of_contains (hn : 0 < n) (h : (Interval.of n k).Contains k x) : 0 < x := by
  have hlow : (0 : ℚ) < (Interval.of n k).low := by exact_mod_cast Interval.low_pos hn k
  exact (mul_pos hlow (two_zpow_pos _)).trans_le h.lower

/-- A rounding that comes to a double is unpacked as that double. -/
theorem unpack_packed_of_contains (s : Sign)
    (hx : StandsFor (ExtendedMantissa.ofMantissaAndAccuracy m acc) x) (he : e ≤ unit m e)
    (hn : 0 < n) (hc : Canonical n k) (hk : k ≤ 971)
    (hin : (Interval.of n k).Contains k (x * 2 ^ e)) :
    (packed (roundWithAccuracy .binary64 s m e acc)).toModel.unpack = ofPair s (n, k) := by
  rw [roundWithAccuracy_of_contains s hx he hn hc hin, unpack_packed, unpack_pack_ofPair s hc,
    if_pos hk]

/-- A natural number of 53 bits at least is a double if the bits beyond them are zero. -/
theorem exists_canonical_of_long {a : ℕ} (ha : a ≠ 0) (hlong : 52 ≤ a.log2)
    (hbits : 2 ^ (a.log2 - 52) ∣ a) :
    ∃ b : ℕ, Canonical b ((a.log2 : ℤ) - 52) ∧ (b : ℚ) * 2 ^ ((a.log2 : ℤ) - 52) = a := by
  obtain ⟨b, hb⟩ := hbits
  have hpow : 0 < 2 ^ (a.log2 - 52) := by positivity
  have hl : 2 ^ a.log2 = 2 ^ (a.log2 - 52) * 2 ^ 52 := by
    rw [← pow_add, Nat.sub_add_cancel hlong]
  have hb52 : 2 ^ 52 ≤ b := by
    refine Nat.le_of_mul_le_mul_left ?_ hpow
    rw [← hl, ← hb]
    exact Nat.log2_self_le ha
  have hb53 : b < 2 ^ 53 := by
    refine Nat.lt_of_mul_lt_mul_left (a := 2 ^ (a.log2 - 52)) ?_
    rw [← hb]
    calc a < 2 ^ (a.log2 + 1) := Nat.lt_log2_self
      _ = 2 ^ (a.log2 - 52) * 2 ^ 53 := by
        rw [pow_succ, hl]
        ring
  have hexp : (a.log2 : ℤ) - 52 = (a.log2 - 52 : ℕ) := by omega
  refine ⟨b, ⟨hb53, by omega, .inl hb52⟩, ?_⟩
  rw [hexp, zpow_natCast, mul_comm]
  exact_mod_cast hb.symm

/-- A natural number of fewer bits is a double, after zeros have been appended. -/
theorem exists_canonical_of_short {a : ℕ} (ha : a ≠ 0) (hshort : a.log2 ≤ 52) :
    ∃ b : ℕ, Canonical b ((a.log2 : ℤ) - 52) ∧ (b : ℚ) * 2 ^ ((a.log2 : ℤ) - 52) = a := by
  have hpow : 0 < 2 ^ (52 - a.log2) := by positivity
  have hl : 2 ^ a.log2 * 2 ^ (52 - a.log2) = 2 ^ 52 := by
    rw [← pow_add, Nat.add_sub_cancel' hshort]
  have h52 : 2 ^ 52 ≤ a * 2 ^ (52 - a.log2) := by
    rw [← hl]
    exact Nat.mul_le_mul_right _ (Nat.log2_self_le ha)
  have h53 : a * 2 ^ (52 - a.log2) < 2 ^ 53 := by
    calc a * 2 ^ (52 - a.log2) < 2 ^ (a.log2 + 1) * 2 ^ (52 - a.log2) :=
          Nat.mul_lt_mul_of_pos_right Nat.lt_log2_self hpow
      _ = 2 ^ 53 := by
        rw [pow_succ, mul_right_comm, hl]
        norm_num
  have hexp : (a.log2 : ℤ) - 52 = -((52 - a.log2 : ℕ) : ℤ) := by omega
  refine ⟨a * 2 ^ (52 - a.log2), ⟨h53, by omega, .inl h52⟩, ?_⟩
  rw [hexp, zpow_neg, zpow_natCast]
  push_cast
  field_simp

/-- A natural number of 53 bits at most, but for zeros at its end, is a double. -/
theorem exists_canonical {a : ℕ} (ha : a ≠ 0) (hbits : 2 ^ (a.log2 - 52) ∣ a) :
    ∃ b : ℕ, Canonical b ((a.log2 : ℤ) - 52) ∧ (b : ℚ) * 2 ^ ((a.log2 : ℤ) - 52) = a := by
  rcases Nat.le_total 52 a.log2 with h | h
  · exact exists_canonical_of_long ha h hbits
  · exact exists_canonical_of_short ha h

/-- Such an integer is made a double without rounding. -/
theorem hasValue_toFloat {a : UInt64} (ha : a.toNat ≠ 0)
    (hbits : 2 ^ (a.toNat.log2 - 52) ∣ a.toNat) : HasValue a.toFloat a.toNat := by
  obtain ⟨m, e, he, -, hvalue, heq⟩ := toFloat_eq ha
  obtain ⟨n, hc, hn⟩ := exists_canonical ha hbits
  have hlog : a.toNat.log2 < 64 := (Nat.log2_lt ha).mpr a.toNat_lt
  have hpos : 0 < n := by
    refine Nat.pos_of_ne_zero ?_
    rintro rfl
    rw [Nat.cast_zero, zero_mul] at hn
    exact ha (by exact_mod_cast hn.symm)
  refine ⟨(n, (a.toNat.log2 : ℤ) - 52), ?_, hc, show (a.toNat.log2 : ℤ) - 52 ≤ 971 by omega, hn.symm⟩
  rw [heq]
  refine unpack_packed_of_contains .positive (standsFor_exact m) he hpos hc (by omega) ?_
  rw [hvalue, ← hn]
  exact contains_self hpos _

section

variable {f g : Float} {v w : ℚ} (hf : HasValue f v) (hg : HasValue g w) (hn : 0 < n)
  (hc : Canonical n k) (hk : k ≤ 971)

include hf hg hn hc hk

/-- A product is the double in whose interval the exact product is. -/
theorem unpack_mul_of_contains (hin : (Interval.of n k).Contains k (v * w)) :
    (f * g).toModel.unpack = ofPair .positive (n, k) := by
  obtain ⟨p, hp, hcp, -, rfl⟩ := hf
  obtain ⟨q, hq, hcq, -, rfl⟩ := hg
  obtain ⟨hzero, -⟩ | ⟨m, e, hx, he, hvalue, hmul⟩ := mul_cases hp hq hcp hcq
  · have hpos := pos_of_contains hn hin
    rcases hzero with h | h <;> rw [h] at hpos <;> simp at hpos
  · rw [hmul]
    exact unpack_packed_of_contains _ hx he hn hc hk (by rwa [hvalue])

/-- A quotient is the double in whose interval the exact quotient is. -/
theorem unpack_div_of_contains (hin : (Interval.of n k).Contains k (v / w)) :
    (f / g).toModel.unpack = ofPair .positive (n, k) := by
  have hpos := pos_of_contains hn hin
  obtain ⟨p, hp, -, -, rfl⟩ := hf
  obtain ⟨q, hq, -, -, rfl⟩ := hg
  have hq0 : q.1 ≠ 0 := by
    intro h
    rw [h] at hpos
    simp at hpos
  obtain ⟨h, -⟩ | ⟨m, e, acc, x, hx, he, hvalue, hdiv⟩ := div_cases hp hq hq0
  · rw [h] at hpos
    simp at hpos
  · rw [hdiv]
    exact unpack_packed_of_contains _ hx he hn hc hk (by rwa [hvalue])

end

end Double

end StarSurvey
