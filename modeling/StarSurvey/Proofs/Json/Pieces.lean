import StarSurvey.Proofs.Json.Grammar
import StarSurvey.Proofs.Json.Text

/-!
# Strings in any spelling

- **Escapes** (`Reads`, `Fails` of `readEscape`): an escape is read as its character, two surrogates as
  one, and a surrogate without a partner fails.
- **Strings** (`settles_readString`, `reads_readString`): a string is read as what its pieces say, and
  fails if they say nothing; what is written for a string is read back.
- **Passing** (`passes_pieces`): a string that nobody asked for is passed in either case.
-/

namespace StarSurvey.Json

open StarSurvey.Text (encode charBytes)

variable {rest : List UInt8}

/-! ## Digits -/

theorem hexDigit?_byte : ∀ d : HexDigit, hexDigit? d.byte = some d.value.val := by
  rintro ⟨v, capital⟩
  revert v capital
  decide

theorem hexValue?_bytes (u : CodeUnit) : hexValue? u.bytes = some u.value := by
  simp [hexValue?, CodeUnit.bytes, CodeUnit.value, hexDigit?_byte]

theorem reads_readHex (u : CodeUnit) (rest : List UInt8) :
    Reads readHex (u.bytes ++ rest) u.value rest := by
  have h : hexValue? [u.a.byte, u.b.byte, u.c.byte, u.d.byte] = some u.value := hexValue?_bytes u
  rw [CodeUnit.bytes, Reads, List.cons_append, List.cons_append, List.cons_append, List.cons_append,
    List.nil_append, readHex, h]

/-! ## Escapes -/

/-- An escape of one letter is none by digits. -/
theorem shortEscape?_letter : ∀ p ∈ shortEscapes,
    shortEscape? p.1.toNat.toUInt8 = some p.2 ∧ p.1.toNat.toUInt8 ≠ 0x75 := by
  decide

theorem reads_readEscape_short {letter c : Char} (h : (letter, c) ∈ shortEscapes)
    (rest : List UInt8) : Reads readEscape (letter.toNat.toUInt8 :: rest) c rest := by
  obtain ⟨hshort, hu⟩ := shortEscape?_letter _ h
  refine (reads_next _ rest).bind ?_
  show Reads (if letter.toNat.toUInt8 = 0x75 then _ else _) _ _ _
  rw [if_neg hu, hshort]
  exact .pure c rest

section Unicode

variable {u : CodeUnit}

theorem reads_readUnicode (htrail : isTrailingSurrogate u.value = false)
    (hlead : isLeadingSurrogate u.value = false) (rest : List UInt8) :
    Reads readUnicode (u.bytes ++ rest) (Char.ofNat u.value) rest := by
  refine (reads_readHex u rest).bind ?_
  rw [if_neg (by simp [htrail]), if_neg (by simp [hlead])]
  exact .pure _ rest

theorem fails_readUnicode (htrail : isTrailingSurrogate u.value = true) (rest : List UInt8) :
    Fails readUnicode (u.bytes ++ rest) fun _ => True := by
  refine .bind_of_reads (reads_readHex u rest) ?_
  rw [if_pos htrail]
  exact ⟨_, rfl, trivial⟩

/-- What has to follow the first half of a pair. -/
def secondHalf (lead : ℕ) : Reader Char := do
  pairMark 0x5C
  pairMark 0x75
  let m ← readHex
  if isTrailingSurrogate m then pure (ofSurrogates lead m) else fail .loneSurrogate

theorem readUnicode_of_lead (htrail : isTrailingSurrogate u.value = false)
    (hlead : isLeadingSurrogate u.value = true) (rest : List UInt8) :
    readUnicode (u.bytes ++ rest) = secondHalf u.value rest := by
  refine (reads_readHex u rest).bind_eq.trans ?_
  rw [if_neg (by simp [htrail]), if_pos hlead]
  rfl

theorem reads_pairMark (mark : UInt8) (rest : List UInt8) :
    Reads (pairMark mark) (mark :: rest) () rest := by
  refine (reads_next mark rest).bind ?_
  show Reads (if mark = mark then _ else _) _ _ _
  rw [if_pos rfl]
  exact .pure () rest

theorem fails_pairMark {mark b : UInt8} (h : b ≠ mark) (rest : List UInt8) :
    Fails (pairMark mark) (b :: rest) fun _ => True := by
  refine .bind_of_reads (reads_next b rest) ?_
  show Fails (if b = mark then _ else _) _ _
  rw [if_neg h]
  exact ⟨_, rfl, trivial⟩

theorem settles_secondHalf (lead : ℕ) (t : CodeUnit) (rest : List UInt8) :
    Settles (secondHalf lead) ((Piece.code t).bytes ++ rest)
      (if isTrailingSurrogate t.value then some (ofSurrogates lead t.value) else none) rest := by
  refine (reads_pairMark 0x5C _).settles_bind ((reads_pairMark 0x75 _).settles_bind ?_)
  refine (reads_readHex t rest).settles_bind ?_
  split
  · exact Reads.pure _ rest
  · exact ⟨_, rfl, trivial⟩

end Unicode

/-! ## Contents -/

theorem Piece.exists_bytes_plain {c : Char} (h : c ≠ '"' ∧ c ≠ '\\' ∧ 0x20 ≤ c.toNat) :
    ∃ b bs, charBytes c = b :: bs ∧ ∀ e ∈ b :: bs, IsPlain e := by
  obtain ⟨b, bs, hb⟩ := List.exists_cons_of_ne_nil (String.utf8EncodeChar_ne_nil (c := c))
  refine ⟨b, bs, hb, fun e he => isPlain_of_mem h.1 h.2.1 h.2.2 ?_⟩
  rw [charBytes, hb]
  exact he

/-- Only a piece by digits can be the second half of a pair. -/
theorem fails_secondHalf (lead : ℕ) {ps : List Piece}
    (h : ∀ t more, ps = .code t :: more → False) (rest : List UInt8) :
    Fails (secondHalf lead) (ps.flatMap Piece.bytes ++ 0x22 :: rest) fun _ => True := by
  match ps, h with
  | [], _ => exact (fails_pairMark (by decide) rest).bind
  | .plain c hc :: ps, _ =>
    obtain ⟨b, bs, hbytes, hplain⟩ := Piece.exists_bytes_plain hc
    rw [List.flatMap_cons, Piece.bytes, hbytes]
    exact (fails_pairMark (hplain b List.mem_cons_self).2.1 _).bind
  | .short letter c hc :: ps, _ =>
    refine .bind_of_reads (reads_pairMark 0x5C _) ?_
    exact (fails_pairMark (shortEscape?_letter _ hc).2 _).bind
  | .code t :: ps, h => exact (h t ps rfl).elim

section Code

variable {bs es : List UInt8} {expected : Option (List UInt8)} {n : ℕ}

theorem SettlesContents.code (h : SettlesContents n bs expected rest) {c : Char}
    (hes : Reads readUnicode es c bs) :
    SettlesContents (n + 1) (0x5C :: 0x75 :: es) (expected.map (charBytes c ++ ·)) rest :=
  h.escape ((reads_next 0x75 es).bind hes)

theorem settlesContents_code_of_fails (hes : Fails readUnicode es fun _ => True) (n : ℕ)
    (rest : List UInt8) : SettlesContents n (0x5C :: 0x75 :: es) none rest := by
  intro fuel hfuel
  obtain ⟨m, rfl⟩ := Nat.exists_eq_add_of_le' (Nat.lt_of_le_of_lt (Nat.zero_le _) hfuel)
  have hescape : Fails readEscape (0x75 :: es) fun _ => True :=
    .bind_of_reads (reads_next 0x75 es) hes
  exact Fails.bind_of_reads (reads_next 0x5C _) hescape.bind

end Code

theorem map_encode_cons (c : Char) (o : Option (List Char)) :
    (o.map (c :: ·)).map encode = (o.map encode).map (charBytes c ++ ·) := by
  rw [Option.map_map, Option.map_map]
  rfl

theorem flatMap_code (u : CodeUnit) (ps : List Piece) (bs : List UInt8) :
    (Piece.code u :: ps).flatMap Piece.bytes ++ bs =
      0x5C :: 0x75 :: (u.bytes ++ (ps.flatMap Piece.bytes ++ bs)) := by
  rw [List.flatMap_cons, List.append_assoc]
  rfl

/-- The contents of a string are read as the bytes of what its pieces say. -/
theorem settlesContents_pieces (ps : List Piece) (rest : List UInt8) :
    SettlesContents (ps.flatMap Piece.bytes).length (ps.flatMap Piece.bytes ++ 0x22 :: rest)
      ((content? ps).map encode) rest := by
  induction ps using content?.induct with
  | case1 => exact settlesContents_quote rest
  | case2 c hc ps ih =>
    obtain ⟨b, bs, hbytes, hplain⟩ := Piece.exists_bytes_plain hc
    rw [content?, map_encode_cons, List.flatMap_cons, Piece.bytes, List.append_assoc,
      List.length_append]
    exact ih.plain (hbytes ▸ hplain)
  | case3 letter c hc ps ih =>
    rw [content?, map_encode_cons, List.flatMap_cons, Piece.bytes]
    exact (ih.escape (reads_readEscape_short hc _)).mono (by simp)
  | case4 u ps htrail =>
    rw [content?.eq_def, flatMap_code]
    simp only [htrail, ↓reduceIte, Option.map_none]
    exact settlesContents_code_of_fails (fails_readUnicode htrail _) _ rest
  | case5 u htrail hlead t ps hsecond ih =>
    have hpair := readUnicode_of_lead (u := u) (by simpa using htrail) hlead
    have hhalf := settles_secondHalf u.value t (ps.flatMap Piece.bytes ++ 0x22 :: rest)
    rw [if_pos hsecond] at hhalf
    rw [content?.eq_def, flatMap_code, flatMap_code]
    simp only [htrail, hlead, hsecond, ↓reduceIte, Bool.false_eq_true]
    rw [map_encode_cons]
    refine (ih.code ((hpair _).trans hhalf)).mono ?_
    simp only [List.flatMap_cons, List.length_append, Piece.bytes, List.length_cons]
    omega
  | case6 u htrail hlead t ps hsecond =>
    have hpair := readUnicode_of_lead (u := u) (by simpa using htrail) hlead
    have hhalf := settles_secondHalf u.value t (ps.flatMap Piece.bytes ++ 0x22 :: rest)
    rw [if_neg hsecond] at hhalf
    rw [content?.eq_def, flatMap_code, flatMap_code]
    simp only [htrail, hlead, hsecond, ↓reduceIte, Bool.false_eq_true, Option.map_none]
    obtain ⟨e, he, -⟩ := hhalf
    exact settlesContents_code_of_fails ⟨e, (hpair _).trans he, trivial⟩ _ rest
  | case7 u ps htrail hlead hother =>
    have hpair := readUnicode_of_lead (u := u) (by simpa using htrail) hlead
    have hnone : content? (.code u :: ps) = none := by
      rw [content?.eq_def]
      simp only [htrail, hlead, ↓reduceIte, Bool.false_eq_true]
    rw [hnone, flatMap_code]
    obtain ⟨e, he, -⟩ := fails_secondHalf u.value hother rest
    exact settlesContents_code_of_fails ⟨e, (hpair _).trans he, trivial⟩ _ rest
  | case8 u ps htrail hlead ih =>
    have hsingle := reads_readUnicode (u := u) (by simpa using htrail) (by simpa using hlead)
    rw [content?.eq_def, flatMap_code]
    simp only [htrail, hlead, ↓reduceIte, Bool.false_eq_true]
    rw [map_encode_cons]
    refine (ih.code (hsingle _)).mono ?_
    simp only [List.flatMap_cons, List.length_append, Piece.bytes, List.length_cons]
    omega

/-! ## Strings -/

/-- Behind its opening quote a string is read as what its pieces say. -/
theorem settles_readString (ps : List Piece) (rest : List UInt8) :
    Settles readString (ps.flatMap Piece.bytes ++ 0x22 :: rest) (string? ps) rest := by
  have hcontents := settlesContents_pieces ps rest
    ((ps.flatMap Piece.bytes ++ 0x22 :: rest).length + 1) (by rw [List.length_append]; omega)
  have hread : ((content? ps).map encode).bind Text.ofBytes? = string? ps := by
    rw [string?]
    cases content? ps with
    | none => rfl
    | some cs =>
      rw [Option.map_some, Option.bind_some, ← Text.bytes_ofList, Text.ofBytes?_bytes]
      rfl
  rw [← hread]
  refine (reads_get _).settles_bind (hcontents.bind fun bs hbs => ?_)
  obtain ⟨cs, -, rfl⟩ := Option.map_eq_some_iff.mp hbs
  rw [← Text.bytes_ofList, Text.ofBytes?_bytes]
  exact Reads.pure _ rest

/-- A string that is written is read back behind its opening quote, whatever characters it has. -/
theorem reads_readString (s : String) (rest : List UInt8) :
    Reads readString (encode (s.toList.flatMap escapeChar) ++ 0x22 :: rest) s rest := by
  obtain ⟨ps, hps, hbytes⟩ := exists_pieces s
  have hread := settles_readString ps rest
  rw [hps] at hread
  rw [hbytes]
  exact hread

/-! ## Passing -/

variable {n : ℕ} {bs : List UInt8}

/-- From a bound on, any fuel passes the contents of a string. -/
def Passes (n : ℕ) (bs rest : List UInt8) : Prop :=
  ∀ fuel, n < fuel → Reads (skipContents fuel) bs () rest

theorem passes_quote (rest : List UInt8) : Passes 0 (0x22 :: rest) rest := by
  intro fuel hfuel
  obtain ⟨m, rfl⟩ := Nat.exists_eq_add_of_le' hfuel
  exact (reads_peek _).bind (reads_pass 0x22 rest)

theorem Passes.plain (h : Passes n bs rest) {qs : List UInt8} (hqs : ∀ b ∈ qs, IsPlain b) :
    Passes (qs.length + n) (qs ++ bs) rest := by
  induction qs with
  | nil => simpa using h
  | cons b qs ih =>
    intro fuel hfuel
    obtain ⟨m, rfl⟩ := Nat.exists_eq_add_of_le' (Nat.lt_of_le_of_lt (Nat.zero_le _) hfuel)
    have htail := ih (fun e he => hqs e (List.mem_cons_of_mem b he)) m
      (by rw [List.length_cons] at hfuel; omega)
    obtain ⟨hquote, hslash, hcontrol⟩ := hqs b List.mem_cons_self
    refine (reads_peek _).bind ?_
    show Reads (if b = 0x22 then _ else if b = 0x5C then _ else if b < 0x20 then _ else _) _ _ _
    rw [if_neg hquote, if_neg hslash, if_neg hcontrol]
    exact (reads_pass b _).bind htail

theorem Passes.escape (h : Passes n bs rest) {es : List UInt8} (hes : Reads skipEscape es () bs) :
    Passes (n + 1) (0x5C :: es) rest := by
  intro fuel hfuel
  obtain ⟨m, rfl⟩ := Nat.exists_eq_add_of_le' (Nat.lt_of_le_of_lt (Nat.zero_le _) hfuel)
  refine (reads_peek _).bind ((reads_pass 0x5C es).bind (hes.bind ?_))
  exact h m (by omega)

theorem reads_skipEscape_short {letter c : Char} (h : (letter, c) ∈ shortEscapes)
    (rest : List UInt8) : Reads skipEscape (letter.toNat.toUInt8 :: rest) () rest := by
  obtain ⟨hshort, hu⟩ := shortEscape?_letter _ h
  refine (reads_next _ rest).bind ?_
  show Reads (if letter.toNat.toUInt8 = 0x75 then _ else _) _ _ _
  rw [if_neg hu, hshort]
  exact .pure () rest

theorem reads_skipEscape_code (u : CodeUnit) (rest : List UInt8) :
    Reads skipEscape (0x75 :: (u.bytes ++ rest)) () rest :=
  (reads_next 0x75 _).bind ((reads_readHex u rest).map fun _ => ())

/-- A string that nobody asked for is passed, whatever its pieces say. -/
theorem passes_pieces (ps : List Piece) (rest : List UInt8) :
    Passes (ps.flatMap Piece.bytes).length (ps.flatMap Piece.bytes ++ 0x22 :: rest) rest := by
  induction ps with
  | nil => exact passes_quote rest
  | cons p ps ih =>
    rw [List.flatMap_cons, List.length_append, List.append_assoc]
    cases p with
    | plain c hc =>
      obtain ⟨b, bs, hbytes, hplain⟩ := Piece.exists_bytes_plain hc
      exact ih.plain (show ∀ e ∈ charBytes c, IsPlain e from hbytes ▸ hplain)
    | short letter c hc =>
      intro fuel hfuel
      refine ih.escape (reads_skipEscape_short hc _) fuel ?_
      simp only [Piece.bytes, List.length_cons, List.length_nil] at hfuel
      omega
    | code u =>
      intro fuel hfuel
      refine ih.escape (reads_skipEscape_code u _) fuel ?_
      simp only [Piece.bytes, List.length_cons] at hfuel
      omega

end StarSurvey.Json
