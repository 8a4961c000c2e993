import StarSurvey.Json.Text
import StarSurvey.Proofs.Json.Numeral
import StarSurvey.Proofs.Json.Spacing

/-!
# The texts of a JSON value

One value has many texts: blanks may stand between its tokens, a character of a string may be escaped
or not, and an exponent may have a plus sign.

- **Values** (`Source`): what a text says, with numbers by their digits and members in their order.
- **Strings** (`Piece`, `content?`): the ways to write a character, and what a row of them says. What
  is written for a string is such a row (`exists_quoted`).
- **Texts** (`Spells`): the grammar. It is that of the standard, so it has texts whose numbers no
  double can hold and whose surrogates have no partner.
-/

namespace StarSurvey.Json

open StarSurvey.Text (encode charBytes)

/-- A JSON value as it is written. -/
inductive Source where
  | null
  | boolean (b : Bool)
  | number (n : Numeral)
  /-- A string; one with a surrogate that has no partner says no text. -/
  | string (s : Option String)
  | list (vs : List Source)
  | object (ms : List (String × Source))

/-! ## Strings -/

/-- A hexadecimal digit, as a capital or not. -/
structure HexDigit where
  value : Fin 16
  capital : Bool

/-- The digit as it is written. -/
def HexDigit.byte (d : HexDigit) : UInt8 :=
  let c := Nat.digitChar d.value
  (if d.capital then c.toUpper else c).toNat.toUInt8

/-- The four digits of an escape. -/
structure CodeUnit where
  a : HexDigit
  b : HexDigit
  c : HexDigit
  d : HexDigit

namespace CodeUnit

/-- The number that the digits are. -/
def value (u : CodeUnit) : ℕ :=
  16 * (16 * (16 * u.a.value.val + u.b.value.val) + u.c.value.val) + u.d.value.val

/-- The digits as they are written. -/
def bytes (u : CodeUnit) : List UInt8 := [u.a.byte, u.b.byte, u.c.byte, u.d.byte]

end CodeUnit

/-- The escapes of one letter, and what they stand for. -/
def shortEscapes : List (Char × Char) :=
  [('"', '"'), ('\\', '\\'), ('/', '/'), ('b', '\x08'), ('f', '\x0c'), ('n', '\n'), ('r', '\r'),
    ('t', '\t')]

/-- A piece of a string. -/
inductive Piece where
  /-- A character that stands for itself. -/
  | plain (c : Char) (h : c ≠ '"' ∧ c ≠ '\\' ∧ 0x20 ≤ c.toNat)
  /-- An escape of one letter. -/
  | short (letter c : Char) (h : (letter, c) ∈ shortEscapes)
  /-- An escape by four digits. -/
  | code (u : CodeUnit)

/-- The piece as it is written. -/
def Piece.bytes : Piece → List UInt8
  | .plain c _ => charBytes c
  | .short letter _ _ => [0x5C, letter.toNat.toUInt8]
  | .code u => 0x5C :: 0x75 :: u.bytes

/-- The characters that some pieces say: of surrogates two make a character, and one none. -/
def content? : List Piece → Option (List Char)
  | [] => some []
  | .plain c _ :: ps => (content? ps).map (c :: ·)
  | .short _ c _ :: ps => (content? ps).map (c :: ·)
  | .code u :: ps =>
    if isTrailingSurrogate u.value then none
    else if isLeadingSurrogate u.value then
      match ps with
      | .code t :: ps =>
        if isTrailingSurrogate t.value then (content? ps).map (ofSurrogates u.value t.value :: ·)
        else none
      | _ => none
    else (content? ps).map (Char.ofNat u.value :: ·)

/-- The string that some pieces say. -/
def string? (ps : List Piece) : Option String := (content? ps).map String.ofList

/-- The text of a string, with its quotes. -/
def quoted (ps : List Piece) : List UInt8 := 0x22 :: (ps.flatMap Piece.bytes ++ [0x22])

/-- A piece that says a character: the character itself, or its number if it has to be escaped. -/
def Piece.of (c : Char) : Piece :=
  if h : c ≠ '"' ∧ c ≠ '\\' ∧ 0x20 ≤ c.toNat then .plain c h
  else
    let digit (n : ℕ) : HexDigit := ⟨Fin.ofNat 16 n, false⟩
    .code ⟨digit 0, digit 0, digit (c.toNat / 16), digit c.toNat⟩

/-- Pieces that say a text. -/
def pieces (s : String) : List Piece := s.toList.map Piece.of

theorem content?_of (c : Char) (ps : List Piece) :
    content? (.of c :: ps) = (content? ps).map (c :: ·) := by
  by_cases h : c ≠ '"' ∧ c ≠ '\\' ∧ 0x20 ≤ c.toNat
  · rw [Piece.of, dif_pos h, content?]
  · have hlow : c.toNat < 128 := by
      by_contra hhigh
      refine h ⟨?_, ?_, by omega⟩ <;> rintro rfl <;> exact hhigh (by decide)
    rw [Piece.of, dif_neg h, content?.eq_def]
    have hvalue : CodeUnit.value ⟨⟨Fin.ofNat 16 0, false⟩, ⟨Fin.ofNat 16 0, false⟩,
        ⟨Fin.ofNat 16 (c.toNat / 16), false⟩, ⟨Fin.ofNat 16 c.toNat, false⟩⟩ = c.toNat := by
      simp only [CodeUnit.value, Fin.ofNat]
      omega
    have htrail : isTrailingSurrogate c.toNat = false := by simp [isTrailingSurrogate]; omega
    have hlead : isLeadingSurrogate c.toNat = false := by simp [isLeadingSurrogate]; omega
    simp only [hvalue, htrail, hlead, Bool.false_eq_true, ↓reduceIte, Char.ofNat_toNat]

theorem string?_pieces (s : String) : string? (pieces s) = some s := by
  have hcontent : ∀ cs : List Char, content? (cs.map Piece.of) = some cs := by
    intro cs
    induction cs with
    | nil => rfl
    | cons c cs ih => rw [List.map_cons, content?_of, ih, Option.map_some]
  rw [string?, pieces, hcontent, Option.map_some, String.ofList_toList]

/-! ## Strings that are written -/

/-- The escapes of the controls, all 32 of them. -/
theorem encode_control : ∀ n < 0x20, encode ['\\', 'u', '0', '0', Nat.digitChar (n / 16),
    Nat.digitChar (n % 16)] = (Piece.code ⟨⟨Fin.ofNat 16 0, false⟩, ⟨Fin.ofNat 16 0, false⟩,
      ⟨Fin.ofNat 16 (n / 16), false⟩, ⟨Fin.ofNat 16 n, false⟩⟩).bytes := by
  decide

/-- A character is written as a piece that says it. -/
theorem exists_piece (c : Char) : ∃ p : Piece, p.bytes = encode (escapeChar c) ∧
    ∀ ps, content? (p :: ps) = (content? ps).map (c :: ·) := by
  unfold escapeChar
  split_ifs with h1 h2 h3 h4 h5 h6 h7 h8
  · subst h1
    exact ⟨.short '"' '"' (by decide), rfl, fun _ => rfl⟩
  · subst h2
    exact ⟨.short '\\' '\\' (by decide), rfl, fun _ => rfl⟩
  · subst h3
    exact ⟨.short 'b' '\x08' (by decide), rfl, fun _ => rfl⟩
  · subst h4
    exact ⟨.short 'f' '\x0c' (by decide), rfl, fun _ => rfl⟩
  · subst h5
    exact ⟨.short 'n' '\n' (by decide), rfl, fun _ => rfl⟩
  · subst h6
    exact ⟨.short 'r' '\r' (by decide), rfl, fun _ => rfl⟩
  · subst h7
    exact ⟨.short 't' '\t' (by decide), rfl, fun _ => rfl⟩
  · refine ⟨.of c, ?_, content?_of c⟩
    rw [Piece.of, dif_neg fun h => absurd h8 (Nat.not_lt.mpr h.2.2)]
    exact (encode_control _ h8).symm
  · exact ⟨.plain c ⟨h1, h2, Nat.le_of_not_lt h8⟩, by simp [Piece.bytes, encode], fun _ => rfl⟩

/-- A string is written in pieces that say it. -/
theorem exists_pieces (s : String) : ∃ ps, string? ps = some s ∧
    encode (s.toList.flatMap escapeChar) = ps.flatMap Piece.bytes := by
  obtain ⟨ps, hcontent, hbytes⟩ : ∃ ps, content? ps = some s.toList ∧
      encode (s.toList.flatMap escapeChar) = ps.flatMap Piece.bytes := by
    induction s.toList with
    | nil => exact ⟨[], rfl, rfl⟩
    | cons c cs ih =>
      obtain ⟨ps, hcontent, hbytes⟩ := ih
      obtain ⟨p, hp, hmore⟩ := exists_piece c
      refine ⟨p :: ps, ?_, ?_⟩
      · rw [hmore, hcontent, Option.map_some]
      · rw [List.flatMap_cons, List.flatMap_cons, Text.encode_append, hp, hbytes]
  refine ⟨ps, ?_, hbytes⟩
  rw [string?, hcontent, Option.map_some, String.ofList_toList]

/-- What is written for a string is the text of pieces that say it. -/
theorem exists_quoted (s : String) : ∃ ps, string? ps = some s ∧ encode (quote s) = quoted ps := by
  obtain ⟨ps, hps, hbytes⟩ := exists_pieces s
  refine ⟨ps, hps, ?_⟩
  rw [quote, List.cons_append, Text.encode_cons_of_lt (by decide), Text.encode_append, hbytes]
  rfl

/-! ## Texts -/

mutual

/-- A text says a value. -/
inductive Spells : Source → List UInt8 → Prop where
  | null : Spells .null [0x6E, 0x75, 0x6C, 0x6C]
  | boolean (b : Bool) : Spells (.boolean b)
      (if b then [0x74, 0x72, 0x75, 0x65] else [0x66, 0x61, 0x6C, 0x73, 0x65])
  | number {n : Numeral} (h : n.WellFormed) (capital plus : Bool) :
    Spells (.number n) (n.spelling capital plus)
  | string (ps : List Piece) : Spells (.string (string? ps)) (quoted ps)
  | list {vs : List Source} {bs close : List UInt8} (items : SpellsElements true vs bs)
      (hclose : AllBlank close) : Spells (.list vs) (0x5B :: (bs ++ (close ++ [0x5D])))
  | object {ms : List (String × Source)} {bs close : List UInt8} (members : SpellsMembers true ms bs)
      (hclose : AllBlank close) : Spells (.object ms) (0x7B :: (bs ++ (close ++ [0x7D])))

/-- A text says elements, behind the bracket or behind other elements. -/
inductive SpellsElements : Bool → List Source → List UInt8 → Prop where
  | nil (first : Bool) : SpellsElements first [] []
  | cons {v : Source} {vs : List Source} {bs front back more : List UInt8} (first : Bool)
      (hfront : AllBlank front) (value : Spells v bs) (hback : AllBlank back)
      (others : SpellsElements false vs more) :
    SpellsElements first (v :: vs) (encode (comma first) ++ (front ++ (bs ++ (back ++ more))))

/-- A text says members, behind the brace or behind other members. -/
inductive SpellsMembers : Bool → List (String × Source) → List UInt8 → Prop where
  | nil (first : Bool) : SpellsMembers first [] []
  | cons {k : String} {v : Source} {ms : List (String × Source)}
      {bs front behind gap back more : List UInt8} (first : Bool) (ps : List Piece)
      (hfront : AllBlank front) (key : string? ps = some k) (hbehind : AllBlank behind)
      (hgap : AllBlank gap) (value : Spells v bs) (hback : AllBlank back)
      (others : SpellsMembers false ms more) :
    SpellsMembers first ((k, v) :: ms) (encode (comma first) ++ (front ++ (quoted ps ++
      (behind ++ 0x3A :: (gap ++ (bs ++ (back ++ more)))))))

end

/-- Every text has a string that says it. -/
theorem spells_quoted_pieces (s : String) : Spells (.string (some s)) (quoted (pieces s)) :=
  string?_pieces s ▸ .string (pieces s)

end StarSurvey.Json
