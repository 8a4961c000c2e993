import StarSurvey.Decimal.Binary64
import StarSurvey.Proofs.Double.Rounding

/-!
# Doubles and their bits

- **Packing** (`unpack_pack_ofPair`, `unpack_cases`): what is in canonical form comes back from its
  bits if its exponent fits, and all finite floats are in canonical form.
- **Bits** (`ofFloat_of_isFinite`, `unpack_of_ofFloat`, `eq_of_unpack`): the exact value that texts
  are made from is in the same form, and it tells which float it was.
-/

namespace StarSurvey.Double

open Float.Model (Format UnpackedFloat totalExponent)
open Float.Model.UnpackedFloat
open Decimal (Binary64)

/-! ## Packing -/

theorem ofPair_of_pos (s : Sign) {m : ℕ} (h : 0 < m) (e : ℤ) :
    ofPair s (m, e) = .finite s m e h := by
  rw [ofPair, dif_neg (show (m, e).1 ≠ 0 from h.ne')]

theorem ofPair_cases (s : Sign) (p : ℕ × ℤ) :
    (p.1 = 0 ∧ ofPair s p = .zero s) ∨ ∃ h, ofPair s p = .finite s p.1 p.2 h := by
  by_cases h : p.1 = 0
  · exact .inl ⟨h, dif_pos h⟩
  · exact .inr ⟨_, dif_neg h⟩

/-- The sign in the bits of a double. -/
def signOf (b : BitVec 64) : Sign := Sign.ofBitVec (@unpackSign .binary64 b)

/-- The bits of the exponent. -/
def exponentOf (b : BitVec 64) : BitVec 11 := @unpackExponent .binary64 b

/-- The bits of the fraction. -/
def fractionOf (b : BitVec 64) : BitVec 52 := @unpackMantissa .binary64 b

section Parts

variable (s : Sign) (exponent : BitVec 11) (fraction : BitVec 52)

theorem signOf_packComponents :
    signOf (packComponents .binary64 s exponent fraction) = s := by
  have hbit : @unpackSign .binary64 (packComponents .binary64 s exponent fraction) =
      s.toBitVec := by
    apply BitVec.eq_of_getLsbD_eq
    intro i hi
    obtain rfl : i = 0 := by omega
    show (BitVec.extractLsb 63 63 (s.toBitVec ++ exponent ++ fraction)).getLsbD 0 = _
    rw [BitVec.getLsbD_extractLsb, BitVec.getLsbD_append, BitVec.getLsbD_append]
    simp
  rw [signOf, hbit]
  cases s <;> rfl

theorem exponentOf_packComponents :
    exponentOf (packComponents .binary64 s exponent fraction) = exponent :=
  unpackExponent_packComponents

theorem fractionOf_packComponents :
    fractionOf (packComponents .binary64 s exponent fraction) = fraction :=
  unpackMantissa_packComponents

end Parts

/-- What the three parts of the bits mean. -/
theorem unpack_eq (b : BitVec 64) :
    UnpackedFloat.unpack .binary64 b =
      if exponentOf b = -1#11 then
        (if fractionOf b = 0#52 then .infinity (signOf b) else .notANumber)
      else if exponentOf b = 0#11 then ofPair (signOf b) ((fractionOf b).toNat, -1074)
      else ofPair (signOf b) (2 ^ 52 + (fractionOf b).toNat, ((exponentOf b).toNat : ℤ) - 1075) := by
  unfold UnpackedFloat.unpack
  show (if exponentOf b = -1#11 then
      (if fractionOf b = 0#52 then infinity (signOf b) else notANumber)
    else if exponentOf b = 0#11 then
      (if h : fractionOf b = 0#52 then zero (signOf b)
      else finite (signOf b) (fractionOf b).toNat ((exponentOf b).toNat - 1075 + 1) _)
    else finite (signOf b) (1#1 ++ fractionOf b).toNat ((exponentOf b).toNat - 1075) _) = _
  by_cases hones : exponentOf b = -1#11
  · rw [if_pos hones, if_pos hones]
  · rw [if_neg hones, if_neg hones]
    by_cases hzero : exponentOf b = 0#11
    · rw [if_pos hzero, if_pos hzero]
      by_cases hm : fractionOf b = 0#52
      · rw [dif_pos hm, hm]
        rfl
      · have hpos : 0 < (fractionOf b).toNat := by
          simpa [BitVec.toNat_pos, BitVec.pos_iff_ne_zero] using hm
        have hleast : ((exponentOf b).toNat : ℤ) - 1075 + 1 = -1074 := by
          rw [hzero]
          rfl
        rw [dif_neg hm, ← ofPair_of_pos _ hpos, hleast]
    · have happend : (1#1 ++ fractionOf b).toNat = 2 ^ 52 + (fractionOf b).toNat := by
        rw [BitVec.toNat_append, ← Nat.shiftLeft_add_eq_or_of_lt (fractionOf b).isLt]
        rfl
      have hpos : 0 < (1#1 ++ fractionOf b).toNat := by
        rw [happend]
        positivity
      rw [if_neg hzero, if_neg hzero, ← ofPair_of_pos _ hpos, happend]

/-- The same of bits that are put together from the three parts. -/
theorem unpack_packComponents (s : Sign) (exponent : BitVec 11) (fraction : BitVec 52) :
    UnpackedFloat.unpack .binary64 (packComponents .binary64 s exponent fraction) =
      if exponent = -1#11 then (if fraction = 0#52 then .infinity s else .notANumber)
      else if exponent = 0#11 then ofPair s (fraction.toNat, -1074)
      else ofPair s (2 ^ 52 + fraction.toNat, (exponent.toNat : ℤ) - 1075) := by
  rw [unpack_eq, signOf_packComponents, exponentOf_packComponents, fractionOf_packComponents]

/-- A full mantissa is found again from its bits, the first of which is left out. -/
theorem unpack_normal (s : Sign) {m : ℕ} {e : ℤ} (hfull : 2 ^ 52 ≤ m) (hshort : m < 2 ^ 53)
    (hleast : -1074 ≤ e) (he : e ≤ 971) :
    UnpackedFloat.unpack .binary64 (packComponents .binary64 s (BitVec.ofNat 11 (e + 1075).toNat)
      (BitVec.ofNat 52 m)) = ofPair s (m, e) := by
  have hexp : (BitVec.ofNat 11 (e + 1075).toNat).toNat = (e + 1075).toNat := by
    rw [BitVec.toNat_ofNat, Nat.mod_eq_of_lt (by omega)]
  have hmant : (BitVec.ofNat 52 m).toNat = m - 2 ^ 52 := by
    rw [BitVec.toNat_ofNat]
    omega
  have hones : BitVec.ofNat 11 (e + 1075).toNat ≠ -1#11 := by
    intro h
    rw [h] at hexp
    have : (-1#11).toNat = 2047 := by decide
    omega
  have hzero : BitVec.ofNat 11 (e + 1075).toNat ≠ 0#11 := by
    intro h
    rw [h] at hexp
    have : (0#11).toNat = 0 := rfl
    omega
  have hsum : ((e + 1075).toNat : ℤ) - 1075 = e := by omega
  rw [unpack_packComponents, if_neg hones, if_neg hzero, hmant, hexp, Nat.add_sub_cancel' hfull, hsum]

/-- So is one that is not full, from all of its bits. -/
theorem unpack_subnormal (s : Sign) {m : ℕ} (hm : m < 2 ^ 52) :
    UnpackedFloat.unpack .binary64 (packComponents .binary64 s 0#11 (BitVec.ofNat 52 m)) =
      ofPair s (m, -1074) := by
  have hmant : (BitVec.ofNat 52 m).toNat = m := by
    rw [BitVec.toNat_ofNat, Nat.mod_eq_of_lt hm]
  rw [unpack_packComponents, if_neg (by decide), if_pos rfl, hmant]

/-- A canonical pair is found again, unless its exponent does not fit. -/
theorem unpack_pack_ofPair (s : Sign) {p : ℕ × ℤ} (hp : Canonical p.1 p.2) :
    UnpackedFloat.unpack .binary64 (pack .binary64 (ofPair s p)) =
      if p.2 ≤ 971 then ofPair s p else .infinity s := by
  obtain ⟨m, e⟩ := p
  obtain ⟨hshort, hleast, hfull⟩ := hp
  simp only at hshort hleast hfull ⊢
  by_cases hm : m = 0
  · have he : e = -1074 := hfull.resolve_left (by omega)
    subst hm he
    exact unpack_packComponents s 0#11 0#52
  · conv_lhs => rw [ofPair_of_pos s (Nat.pos_of_ne_zero hm)]
    unfold pack
    simp only
    have hbias : (e + (Format.binary64.exponentBias : ℤ) +
        (Format.binary64.mantissaBitsWithoutImplicit : ℤ)).toNat = (e + 1075).toNat := by
      show (e + 1023 + 52).toNat = _
      congr 1
      ring
    rw [hbias]
    by_cases he : e ≤ 971
    · rw [if_neg (show ¬ 2 ^ 11 ≤ (e + 1075).toNat + 1 by omega), if_pos he]
      split
      · rename_i hbits
        have hlog : m.log2 = 52 := Nat.succ.inj hbits
        have hlow : 2 ^ 52 ≤ m := hlog ▸ Nat.log2_self_le hm
        exact unpack_normal s hlow hshort hleast he
      · rename_i hbits
        have hlow : m < 2 ^ 52 := by
          by_contra hlow
          refine hbits ?_
          show m.log2 + 1 = 53
          have hlow' := (Nat.le_log2 hm).mpr (not_lt.mp hlow)
          have hhigh := (Nat.log2_lt hm).mpr hshort
          omega
        have he : e = -1074 := hfull.resolve_left (by omega)
        rw [he]
        exact unpack_subnormal s hlow
    · rw [if_pos (show 2 ^ 11 ≤ (e + 1075).toNat + 1 by omega), if_neg he]
      exact unpack_packComponents s (-1#11) 0#52

/-- What bits stand for is in canonical form. -/
theorem unpack_cases (b : BitVec 64) :
    UnpackedFloat.unpack .binary64 b = .notANumber ∨
    (∃ s, UnpackedFloat.unpack .binary64 b = .infinity s) ∨
    ∃ s p, UnpackedFloat.unpack .binary64 b = ofPair s p ∧ Canonical p.1 p.2 ∧ p.2 ≤ 971 := by
  have hfrac := (fractionOf b).isLt
  have hexp := (exponentOf b).isLt
  rw [unpack_eq]
  by_cases hones : exponentOf b = -1#11
  · rw [if_pos hones]
    split
    · exact .inr (.inl ⟨_, rfl⟩)
    · exact .inl rfl
  · refine .inr (.inr ?_)
    rw [if_neg hones]
    split
    · exact ⟨_, _, rfl, ⟨by omega, le_refl _, .inr rfl⟩, by omega⟩
    · rename_i hzero
      have h0 : (exponentOf b).toNat ≠ 0 := fun h => hzero (BitVec.eq_of_toNat_eq h)
      have h1 : (exponentOf b).toNat ≠ 2047 := fun h => hones (BitVec.eq_of_toNat_eq h)
      exact ⟨_, _, rfl, ⟨by omega, by omega, .inl (by omega)⟩, by omega⟩

/-! ## Bits -/

theorem toNat_exponentOf (b : BitVec 64) : (exponentOf b).toNat = b.toNat / 2 ^ 52 % 2 ^ 11 := by
  show (BitVec.extractLsb 62 52 b).toNat = _
  rw [BitVec.extractLsb_toNat, Nat.shiftRight_eq_div_pow]

theorem toNat_fractionOf (b : BitVec 64) : (fractionOf b).toNat = b.toNat % 2 ^ 52 := by
  show (BitVec.extractLsb 51 0 b).toNat = _
  rw [BitVec.extractLsb_toNat, Nat.shiftRight_zero]

/-- A sign as a Boolean. -/
def signIf (negative : Bool) : Sign := if negative then .negative else .positive

theorem signOf_eq (b : BitVec 64) : signOf b = signIf (2 ^ 63 ≤ b.toNat) := by
  have hlt := b.isLt
  have hbit : (@unpackSign .binary64 b).toNat = b.toNat / 2 ^ 63 % 2 := by
    show (BitVec.extractLsb 63 63 b).toNat = _
    rw [BitVec.extractLsb_toNat, Nat.shiftRight_eq_div_pow]
  have hzero : @unpackSign .binary64 b = 0#1 ↔ b.toNat / 2 ^ 63 % 2 = 0 := by
    rw [← hbit, ← BitVec.toNat_inj]
    rfl
  unfold signOf Sign.ofBitVec signIf
  by_cases hneg : 2 ^ 63 ≤ b.toNat
  · rw [if_neg (by rw [hzero]; omega), if_pos (by simpa using hneg)]
  · rw [if_pos (by rw [hzero]; omega), if_neg (by simpa using hneg)]

/-- The exact value of a finite float is in canonical form. -/
theorem ofFloat_of_isFinite {f : Float} (h : f.isFinite = true) :
    ∃ negative m e, Binary64.ofFloat f = .finite negative m e ∧ Canonical m e ∧ e ≤ 971 := by
  have hexp : f.toBits.toNat / 2 ^ 52 % 2 ^ 11 ≠ 2047 := by
    intro hones
    have hb : exponentOf f.toModel.toBits.toBitVec = -1#11 :=
      BitVec.eq_of_toNat_eq ((toNat_exponentOf _).trans hones)
    have hu : (UnpackedFloat.unpack .binary64 f.toModel.toBits.toBitVec).isFinite = true := h
    rw [unpack_eq, if_pos hb] at hu
    split at hu <;> cases hu
  unfold Binary64.ofFloat Binary64.ofBits
  generalize f.toBits.toNat = bits at hexp
  have hlt := Nat.mod_lt (bits / 2 ^ 52) (show 0 < 2 ^ 11 by norm_num)
  have hfrac := Nat.mod_lt bits (show 0 < 2 ^ 52 by norm_num)
  simp only
  rw [if_neg (show ¬ bits / 0x10000000000000 % 0x800 = 2047 from hexp)]
  split
  · exact ⟨_, _, _, rfl, ⟨by omega, le_refl _, .inr rfl⟩, by omega⟩
  · exact ⟨_, _, _, rfl, ⟨by omega, by omega, .inl (by omega)⟩, by omega⟩

/-- The exact value that texts are made from is what the model unpacks. -/
theorem unpack_of_ofFloat {f : Float} {negative : Bool} {m : ℕ} {e : ℤ}
    (h : Binary64.ofFloat f = .finite negative m e) :
    f.toModel.unpack = ofPair (signIf negative) (m, e) := by
  have hunpack := unpack_eq f.toModel.toBits.toBitVec
  have hexp := toNat_exponentOf f.toModel.toBits.toBitVec
  have hfrac := toNat_fractionOf f.toModel.toBits.toBitVec
  have hsign := signOf_eq f.toModel.toBits.toBitVec
  have hbits : f.toBits.toNat = f.toModel.toBits.toBitVec.toNat := rfl
  unfold Binary64.ofFloat Binary64.ofBits at h
  rw [hbits] at h
  show UnpackedFloat.unpack .binary64 f.toModel.toBits.toBitVec = _
  rw [hunpack, hsign]
  generalize f.toModel.toBits.toBitVec = b at *
  simp only at h
  have hone : exponentOf b = -1#11 ↔ b.toNat / 2 ^ 52 % 2 ^ 11 = 2047 := by
    rw [← hexp, ← BitVec.toNat_inj]
    rfl
  have hzero : exponentOf b = 0#11 ↔ b.toNat / 2 ^ 52 % 2 ^ 11 = 0 := by
    rw [← hexp, ← BitVec.toNat_inj]
    rfl
  split at h
  · split at h <;> cases h
  · rename_i hne
    rw [if_neg (by rwa [hone])]
    split at h
    · rename_i hz
      cases h
      rw [if_pos (by rwa [hzero]), hfrac]
      rfl
    · rename_i hnz
      cases h
      rw [if_neg (by rwa [hzero]), hfrac, hexp]
      rfl

/-- A finite float is all that its text is made from. -/
theorem eq_of_ofFloat {f g : Float} {negative : Bool} {m : ℕ} {e : ℤ}
    (hf : Binary64.ofFloat f = .finite negative m e)
    (hg : Binary64.ofFloat g = .finite negative m e) : f = g := by
  have hbits : ∀ a b : ℕ, a < 2 ^ 64 → b < 2 ^ 64 → Binary64.ofBits a = .finite negative m e →
      Binary64.ofBits b = .finite negative m e → a = b := by
    intro a b ha hb hofa hofb
    unfold Binary64.ofBits at hofa hofb
    simp only at hofa hofb
    split_ifs at hofa hofb <;> cases hofa
    all_goals
      simp only [Binary64.finite.injEq, decide_eq_decide] at hofb
      omega
  have heq := hbits _ _ f.toBits.toNat_lt g.toBits.toNat_lt hf hg
  have hmodel : f.toModel.toBits = g.toModel.toBits := UInt64.toNat_inj.mp heq
  obtain ⟨⟨bits, hvalid⟩⟩ := f
  obtain ⟨⟨bits', hvalid'⟩⟩ := g
  cases hmodel
  rfl

theorem isFinite_ofPair (s : Sign) (p : ℕ × ℤ) : (ofPair s p).isFinite = true := by
  obtain ⟨-, h⟩ | ⟨_, h⟩ := ofPair_cases s p
  · rw [h]
    rfl
  · rw [h]
    rfl

theorem ofPair_injective {s t : Sign} {p q : ℕ × ℤ} (hp : Canonical p.1 p.2)
    (hq : Canonical q.1 q.2) (h : ofPair s p = ofPair t q) : s = t ∧ p = q := by
  have hzero : ∀ {r : ℕ × ℤ}, Canonical r.1 r.2 → r.1 = 0 → r = (0, -1074) := by
    intro r hr h0
    exact Prod.ext h0 (hr.full.resolve_left (by omega))
  obtain ⟨hp0, hp'⟩ | ⟨_, hp'⟩ := ofPair_cases s p
  · obtain ⟨hq0, hq'⟩ | ⟨_, hq'⟩ := ofPair_cases t q
    · rw [hp', hq'] at h
      cases h
      exact ⟨rfl, by rw [hzero hp hp0, hzero hq hq0]⟩
    · rw [hp', hq'] at h
      cases h
  · obtain ⟨-, hq'⟩ | ⟨_, hq'⟩ := ofPair_cases t q
    · rw [hp', hq'] at h
      cases h
    · rw [hp', hq'] at h
      obtain ⟨hs, hm, he⟩ := finite.inj h
      exact ⟨hs, Prod.ext hm he⟩

/-- What is unpacked tells which float it was. -/
theorem eq_of_unpack {f g : Float} {s : Sign} {p : ℕ × ℤ} (hc : Canonical p.1 p.2)
    (hf : f.toModel.unpack = ofPair s p) (hg : g.toModel.unpack = ofPair s p) : f = g := by
  have hofFloat : ∀ {h : Float}, h.toModel.unpack = ofPair s p → ∃ negative, s = signIf negative ∧
      Binary64.ofFloat h = .finite negative p.1 p.2 := by
    intro h hp
    have hfinite : h.isFinite = true := by
      show h.toModel.unpack.isFinite = true
      rw [hp]
      exact isFinite_ofPair s p
    obtain ⟨negative, m, e, hof, hc', -⟩ := ofFloat_of_isFinite hfinite
    obtain ⟨hs, rfl⟩ := ofPair_injective hc hc' (hp.symm.trans (unpack_of_ofFloat hof))
    exact ⟨negative, hs, hof⟩
  obtain ⟨a, ha, hfa⟩ := hofFloat hf
  obtain ⟨b, hb, hgb⟩ := hofFloat hg
  have hab : a = b := by
    cases a <;> cases b
    · rfl
    · cases ha.symm.trans hb
    · cases ha.symm.trans hb
    · rfl
  exact eq_of_ofFloat hfa (hab ▸ hgb)

end StarSurvey.Double
