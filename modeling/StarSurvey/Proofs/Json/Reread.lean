import StarSurvey.Proofs.Double.Nearest
import StarSurvey.Proofs.Json.Spelling

/-!
# Doubles that come back from their text

The text of a double is read with one rounding of its digits and another one of their quotient or
product with a power of ten. If the digits and the power are exact as doubles, only one of these
rounds, and what it rounds is in the interval of the double, so the double comes back.

- **Powers** (`hasValue_powerOfTen`): the powers of ten up to `10^22` are exact.
- **Scaling** (`scale_of_contains`): with exact operands, scaling is rounded to the nearest.
- **Doubles** (`reread_of_writtenExactly`): a double whose digits are written exactly comes back.
-/

namespace StarSurvey.Json

open Float.Model (UnpackedFloat)
open Float.Model.UnpackedFloat
open StarSurvey.Decimal
open StarSurvey.Decimal.Digits (Interval shortest)
open StarSurvey.Double

/-! ## Powers of ten -/

/-- An unpacked float is a number with no sign. -/
def isPositive : UnpackedFloat → Bool
  | .finite .positive _ _ _ => true
  | _ => false

theorem isPositive_powerOfTen :
    ∀ e < 23, isPositive (powerOfTen e).toModel.unpack = true := by
  decide +kernel

theorem hasValue_powerOfTen {e : ℕ} (he : e < 23) : HasValue (powerOfTen e) (10 ^ e) := by
  have hpositive := isPositive_powerOfTen e he
  obtain ⟨s, p, hp, hc, hmax, hv⟩ := hasMagnitude_of_isNat (isNat_powerOfTen e he)
  have hs : s = .positive := by
    rw [hp] at hpositive
    obtain ⟨-, hpair⟩ | ⟨_, hpair⟩ := ofPair_cases s p
    · rw [hpair] at hpositive
      cases hpositive
    · rw [hpair] at hpositive
      cases s with
      | positive => rfl
      | negative => cases hpositive
  rw [Nat.cast_pow, Nat.cast_ofNat] at hv
  exact ⟨p, hs ▸ hp, hc, hmax, hv⟩

/-! ## Scaling -/

/-- A significand without bits beyond 53, but for zeros at its end, and a power of ten that are exact
as doubles. -/
def IsExact (w : ℕ × ℤ) : Prop := 2 ^ (w.1.log2 - 52) ∣ w.1 ∧ w.2.natAbs ≤ 22

instance (w : ℕ × ℤ) : Decidable (IsExact w) := inferInstanceAs (Decidable (_ ∧ _))

/-- What is scaled from exact operands is the double in whose interval the exact result is. -/
theorem scale_of_contains {w : ℕ × ℤ} (hw : IsExact w) (hfits : w.1 < UInt64.size) {n : ℕ} {k : ℤ}
    (hn : 0 < n) (hc : Canonical n k) (hk : k ≤ 971)
    (hin : (Interval.of n k).Contains k (w.1 * 10 ^ w.2)) :
    ∃ f, scale w.1 w.2 = some f ∧ f.toModel.unpack = ofPair .positive (n, k) := by
  obtain ⟨a, e⟩ := w
  obtain ⟨hbits, he⟩ := hw
  simp only at hbits he hfits hin ⊢
  have ha : a ≠ 0 := by
    rintro rfl
    have := pos_of_contains hn hin
    simp at this
  have hsignificand : HasValue a.toUInt64.toFloat a := by
    have htoNat : a.toUInt64.toNat = a := UInt64.toNat_ofNat_of_lt' hfits
    have := hasValue_toFloat (a := a.toUInt64) (by rwa [htoNat]) (by rwa [htoNat])
    rwa [htoNat] at this
  have hpower := hasValue_powerOfTen (show e.natAbs < 23 by omega)
  simp only [scale]
  by_cases hneg : e < 0
  · have hstep : divideByPower a.toUInt64.toFloat e.natAbs 4 =
        a.toUInt64.toFloat / powerOfTen e.natAbs := by
      rw [divideByPower, if_pos (by omega)]
    have hquotient : (a : ℚ) * 10 ^ e = a / 10 ^ e.natAbs := by
      rw [← zpow_natCast, Int.ofNat_natAbs_of_nonpos hneg.le, zpow_neg, div_inv_eq_mul]
    rw [if_pos hneg, hstep]
    rw [hquotient] at hin
    exact ⟨_, rfl, unpack_div_of_contains hsignificand hpower hn hc hk hin⟩
  · have hproduct : (a : ℚ) * 10 ^ e = a * 10 ^ e.natAbs := by
      rw [← zpow_natCast, Int.natAbs_of_nonneg (by omega)]
    rw [hproduct] at hin
    have hunpack := unpack_mul_of_contains hsignificand hpower hn hc hk hin
    have hfinite : (a.toUInt64.toFloat * powerOfTen e.natAbs).isFinite = true := by
      show (a.toUInt64.toFloat * powerOfTen e.natAbs).toModel.unpack.isFinite = true
      rw [hunpack]
      exact isFinite_ofPair _ _
    rw [if_neg hneg, if_pos (by omega), not_isInf_of_isFinite hfinite, if_neg Bool.false_ne_true]
    exact ⟨_, rfl, hunpack⟩

/-! ## Doubles -/

/-- The digits that are written for a double are exact as a double, and so is their power of ten. -/
def IsWrittenExactly : Binary64 → Prop
  | .finite _ m q => m = 0 ∨ IsExact (written .data (shortest m q))
  | .infinite _ | .nan => False

instance : DecidablePred IsWrittenExactly
  | .finite _ _ _ => inferInstanceAs (Decidable (_ ∨ _))
  | .infinite _ => inferInstanceAs (Decidable False)
  | .nan => inferInstanceAs (Decidable False)

/-- A double that is written exactly comes back. -/
theorem reread_of_writtenExactly {x : Float} (hx : x.isFinite = true)
    (h : IsWrittenExactly (.ofFloat x)) : reread x = x := by
  obtain ⟨negative, m, q, hof, hc, hq⟩ := ofFloat_of_isFinite hx
  rw [hof] at h
  rw [reread, hof]
  by_cases hm : m = 0
  · exact if_pos hm
  · have hm' := Nat.pos_of_ne_zero hm
    obtain ⟨hinside, hfew⟩ := Digits.inside_shortest hm' hc.short q
    have hin := hinside.contains
    rw [← written_value .data] at hin
    obtain ⟨f, hscale, hf⟩ := scale_of_contains (h.resolve_left hm) (written_lt hfew) hm' hc hq hin
    have hmagnitude : rereadMagnitude m q = f := by rw [rereadMagnitude, hscale]; rfl
    have hxu := unpack_of_ofFloat hof
    simp only [if_neg hm, hmagnitude]
    cases negative with
    | false => exact eq_of_unpack hc hf hxu
    | true => exact eq_of_unpack hc (unpack_neg hf hc hq) hxu

end StarSurvey.Json
