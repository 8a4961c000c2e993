import StarSurvey.Text.Utf8
import Mathlib.Tactic.IntervalCases

/-!
# The bytes of characters, and rows of digits

- **Bytes** (`encode`): the bytes of a text are those of its characters in a row. A character below
  128 is its own byte (`charBytes_of_lt`), and no byte of another one is (`le_of_mem_charBytes`), so
  a reader may look for marks byte by byte.
- **Digits**: the row of digits of a number has only digits (`allDigits_toDigits`), begins with a zero
  only for zero (`eq_zero_of_toDigits_eq`).
-/

namespace StarSurvey.Text

/-! ## Bytes -/

/-- The bytes of some characters. -/
def encode (cs : List Char) : List UInt8 := cs.flatMap charBytes

@[simp] theorem encode_nil : encode [] = [] := rfl

theorem encode_cons (c : Char) (cs : List Char) : encode (c :: cs) = charBytes c ++ encode cs := rfl

@[simp] theorem encode_append (cs ds : List Char) : encode (cs ++ ds) = encode cs ++ encode ds :=
  List.flatMap_append

theorem bytes_ofList (cs : List Char) : bytes (String.ofList cs) = encode cs := by
  rw [bytes, String.toByteArray_ofList, List.utf8Encode, List.toList_data_toByteArray]
  rfl

theorem charBytes_of_lt {c : Char} (h : c.toNat < 128) : charBytes c = [c.toNat.toUInt8] := by
  have hc : c.val.toNat ≤ 127 := Nat.le_of_lt_succ h
  rw [charBytes, String.utf8EncodeChar, if_pos hc]
  rfl

theorem encode_cons_of_lt {c : Char} (h : c.toNat < 128) (cs : List Char) :
    encode (c :: cs) = c.toNat.toUInt8 :: encode cs := by
  rw [encode_cons, charBytes_of_lt h]
  rfl

/-- The bytes of the other characters are all above those of the first 128. -/
theorem le_of_mem_charBytes {c : Char} (h : 128 ≤ c.toNat) {b : UInt8} (hb : b ∈ charBytes c) :
    128 ≤ b.toNat := by
  have hc : ¬ c.val.toNat ≤ 127 := Nat.not_le_of_lt h
  have hmax : c.val.toNat < 0xD800 ∨ 0xDFFF < c.val.toNat ∧ c.val.toNat < 0x110000 := c.valid
  have hbyte : ∀ n, 128 ≤ n → n < 256 → 128 ≤ (UInt8.ofNat n).toNat := by
    intro n hn hlt
    rwa [UInt8.toNat_ofNat_of_lt' hlt]
  rw [charBytes, String.utf8EncodeChar, if_neg hc] at hb
  split_ifs at hb
  · simp only [List.mem_cons, List.not_mem_nil, or_false] at hb
    rcases hb with rfl | rfl <;> apply hbyte <;> omega
  · simp only [List.mem_cons, List.not_mem_nil, or_false] at hb
    rcases hb with rfl | rfl | rfl <;> apply hbyte <;> omega
  · simp only [List.mem_cons, List.not_mem_nil, or_false] at hb
    rcases hb with rfl | rfl | rfl | rfl <;> apply hbyte <;> omega

/-! ## Digits -/

/-- Only digits. -/
def AllDigits (cs : List Char) : Prop := ∀ c ∈ cs, c.isDigit = true

instance (cs : List Char) : Decidable (AllDigits cs) := List.decidableBAll _ cs

theorem allDigits_toDigits (n : ℕ) : AllDigits (Nat.toDigits 10 n) :=
  fun _ h => Nat.isDigit_of_mem_toDigits (by decide) (by decide) h

theorem allDigits_replicate (n : ℕ) : AllDigits (List.replicate n '0') := by
  intro c hc
  rw [List.eq_of_mem_replicate hc]
  rfl

theorem AllDigits.append {cs ds : List Char} (h : AllDigits cs) (h' : AllDigits ds) :
    AllDigits (cs ++ ds) := by
  intro c hc
  exact (List.mem_append.mp hc).elim (h c) (h' c)

theorem AllDigits.take {cs : List Char} (h : AllDigits cs) (n : ℕ) : AllDigits (cs.take n) :=
  fun c hc => h c (List.mem_of_mem_take hc)

theorem AllDigits.drop {cs : List Char} (h : AllDigits cs) (n : ℕ) : AllDigits (cs.drop n) :=
  fun c hc => h c (List.mem_of_mem_drop hc)

theorem lt_of_isDigit {c : Char} (h : c.isDigit = true) : c.toNat < 128 := by
  have := (Char.isDigit_iff_toNat.mp h).2
  have h9 : '9'.toNat = 57 := rfl
  omega

/-- Only the digits of zero begin with a zero. -/
theorem eq_zero_of_toDigits_eq {n : ℕ} {ds : List Char} (h : Nat.toDigits 10 n = '0' :: ds) :
    n = 0 := by
  induction n using Nat.strongRecOn generalizing ds with
  | ind n ih =>
    rw [Nat.toDigits_eq_if (by decide)] at h
    split at h
    · rename_i hlt
      interval_cases n <;> first | rfl | cases h
    · rename_i hge
      obtain ⟨d, more, hd⟩ := List.exists_cons_of_ne_nil (Nat.toDigits_ne_nil (n := n / 10) (b := 10))
      rw [hd, List.cons_append] at h
      cases h
      have := ih (n / 10) (by omega) hd
      omega

end StarSurvey.Text
