import StarSurvey.Json.Text
import StarSurvey.Proofs.Json.Reader
import StarSurvey.Proofs.Text

/-!
# The contents of strings

The bytes of a string up to its closing quote are read piece by piece (`SettlesContents`): a row of
bytes that stand for themselves, or an escape. Fuel is needed for every byte at most.
-/

namespace StarSurvey.Json

open StarSurvey.Text (encode charBytes)

/-- From a bound on, any fuel settles the contents of a string. -/
def SettlesContents (n : ℕ) (bs : List UInt8) (expected : Option (List UInt8)) (rest : List UInt8) :
    Prop :=
  ∀ fuel, n < fuel → Settles (readContents fuel) bs expected rest

theorem settlesContents_quote (rest : List UInt8) :
    SettlesContents 0 (0x22 :: rest) (some []) rest := by
  intro fuel hfuel
  obtain ⟨m, rfl⟩ := Nat.exists_eq_add_of_le' hfuel
  exact (reads_next 0x22 rest).bind (.pure [] rest)

/-- A byte that stands for itself. -/
def IsPlain (b : UInt8) : Prop := b ≠ 0x22 ∧ b ≠ 0x5C ∧ ¬ b < 0x20

namespace SettlesContents

variable {n : ℕ} {bs rest : List UInt8} {expected : Option (List UInt8)}

theorem mono (h : SettlesContents n bs expected rest) {m : ℕ} (hnm : n ≤ m) :
    SettlesContents m bs expected rest :=
  fun fuel hfuel => h fuel (hnm.trans_lt hfuel)

theorem plain (h : SettlesContents n bs expected rest) {qs : List UInt8}
    (hqs : ∀ b ∈ qs, IsPlain b) :
    SettlesContents (qs.length + n) (qs ++ bs) (expected.map (qs ++ ·)) rest := by
  induction qs with
  | nil => simpa using h
  | cons b qs ih =>
    intro fuel hfuel
    obtain ⟨m, rfl⟩ := Nat.exists_eq_add_of_le' (Nat.lt_of_le_of_lt (Nat.zero_le _) hfuel)
    have htail := ih (fun e he => hqs e (List.mem_cons_of_mem b he)) m
      (by rw [List.length_cons] at hfuel; omega)
    obtain ⟨hquote, hslash, hcontrol⟩ := hqs b List.mem_cons_self
    refine (reads_next b (qs ++ bs)).settles_bind ?_
    show Settles (if b = 0x22 then _ else if b = 0x5C then _ else if b < 0x20 then _ else _) _ _ _
    rw [if_neg hquote, if_neg hslash, if_neg hcontrol]
    have hcons := htail.map (b :: ·)
    rw [Option.map_map] at hcons
    exact hcons

theorem escape (h : SettlesContents n bs expected rest) {es : List UInt8} {c : Char}
    (hes : Reads readEscape es c bs) :
    SettlesContents (n + 1) (0x5C :: es) (expected.map (charBytes c ++ ·)) rest := by
  intro fuel hfuel
  obtain ⟨m, rfl⟩ := Nat.exists_eq_add_of_le' (Nat.lt_of_le_of_lt (Nat.zero_le _) hfuel)
  refine (reads_next 0x5C es).settles_bind (hes.settles_bind ?_)
  exact (h m (by omega)).map (charBytes c ++ ·)

end SettlesContents

theorem isPlain_of_mem {c : Char} (hquote : c ≠ '"') (hslash : c ≠ '\\') (hlow : 0x20 ≤ c.toNat)
    {b : UInt8} (hb : b ∈ charBytes c) : IsPlain b := by
  by_cases hc : c.toNat < 128
  · rw [Text.charBytes_of_lt hc, List.mem_singleton] at hb
    have hnat : b.toNat = c.toNat := by
      rw [hb]
      exact UInt8.toNat_ofNat_of_lt' (hc.trans (by decide))
    refine ⟨?_, ?_, ?_⟩
    · rintro rfl
      exact hquote (Char.toNat_inj.mp hnat.symm)
    · rintro rfl
      exact hslash (Char.toNat_inj.mp hnat.symm)
    · rw [UInt8.lt_iff_toNat_lt, hnat]
      exact Nat.not_lt_of_le hlow
  · have hb128 := Text.le_of_mem_charBytes (Nat.le_of_not_lt hc) hb
    refine ⟨?_, ?_, ?_⟩
    · rintro rfl
      exact absurd hb128 (by decide)
    · rintro rfl
      exact absurd hb128 (by decide)
    · rw [UInt8.lt_iff_toNat_lt]
      exact Nat.not_lt_of_le (le_trans (by decide) hb128)

end StarSurvey.Json
