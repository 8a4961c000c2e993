import StarSurvey.Json.Skip
import StarSurvey.Proofs.Json.Pieces
import StarSurvey.Proofs.Json.Shape

/-!
# Values that nobody asked for

Every text of a value is passed up to its end (`Spells.passes`, `reads_skipValue`). Of two calls that
pass a value one goes past a byte, so a value is passed with fuel twice its length. A number has to
have an end, all other values bring theirs.
-/

namespace StarSurvey.Json

open StarSurvey.Text (encode)

variable {v : Source} {bs close front rest : List UInt8}

/-! ## Where a value begins and ends -/

/-- What may stand behind the text of a value: numbers do not show their end. -/
def Source.Ends : Source → List UInt8 → Prop
  | .number _, rest => EndsNumeral rest
  | _, _ => True

theorem EndsNumeral.ends (h : EndsNumeral rest) (v : Source) : v.Ends rest := by
  cases v with
  | number n => exact h
  | null | boolean b | string s | list vs | object ms => trivial

/-- The first byte tells what kind of value follows. -/
def Source.BeginsWith : Source → UInt8 → Prop
  | .null, b => b = 0x6E
  | .boolean _, b => b = 0x74 ∨ b = 0x66
  | .number _, b => b = 0x2D ∨ isDigit b = true
  | .string _, b => b = 0x22
  | .list _, b => b = 0x5B
  | .object _, b => b = 0x7B

theorem Spells.begins (h : Spells v bs) : ∃ b more, bs = b :: more ∧ v.BeginsWith b := by
  cases h with
  | null => exact ⟨_, _, rfl, rfl⟩
  | boolean b =>
    cases b with
    | true => exact ⟨_, _, rfl, .inl rfl⟩
    | false => exact ⟨_, _, rfl, .inr rfl⟩
  | number h capital plus => exact h.spelling_starts capital plus
  | string ps => exact ⟨_, _, rfl, rfl⟩
  | list items hclose => exact ⟨_, _, rfl, rfl⟩
  | object members hclose => exact ⟨_, _, rfl, rfl⟩

/-- No value begins with a blank or with a bracket that closes something. -/
theorem Source.BeginsWith.isBlank {b : UInt8} (h : v.BeginsWith b) :
    isBlank b = false ∧ b ≠ 0x5D := by
  cases v with
  | number n => exact not_blank_of_digit h
  | boolean c => rcases h with rfl | rfl <;> decide
  | null => cases h; decide
  | string s => cases h; decide
  | list vs => cases h; decide
  | object ms => cases h; decide

theorem endsNumeral_close (hclose : AllBlank close) {mark : UInt8} (hmark : mark = 0x5D ∨ mark = 0x7D)
    (rest : List UInt8) : EndsNumeral (close ++ mark :: rest) := by
  refine endsNumeral_append hclose (endsNumeral_cons ?_ rest)
  rcases hmark with rfl | rfl <;> decide

theorem SpellsElements.endsNumeral {vs : List Source} (h : SpellsElements false vs bs)
    (hrest : EndsNumeral rest) : EndsNumeral (bs ++ rest) := by
  cases h with
  | nil => exact hrest
  | cons => exact endsNumeral_cons (by decide) _

theorem SpellsMembers.endsNumeral {ms : List (String × Source)} (h : SpellsMembers false ms bs)
    (hrest : EndsNumeral rest) : EndsNumeral (bs ++ rest) := by
  cases h with
  | nil => exact hrest
  | cons => exact endsNumeral_cons (by decide) _

/-! ## Passing -/

/-- With enough fuel a text is passed as a value, whatever blanks stand in front of it. -/
def PassesValue (bs rest : List UInt8) : Prop :=
  ∀ front fuel, AllBlank front → 2 * bs.length < fuel →
    Reads (skipValueWith fuel) (front ++ (bs ++ rest)) () rest

/-- What is done behind an element. -/
def skipMoreElements (fuel : ℕ) : Reader Unit := do
  blanks
  match ← peek with
  | none => failPast .endInList
  | some b =>
    if b = 0x2C then do pass; skipElements fuel
    else if b = 0x5D then pass
    else failPast .expectedCommaOrBracket

/-- What is done behind a member. -/
def skipMoreMembers (fuel : ℕ) : Reader Unit := do
  blanks
  match ← peek with
  | none => failPast .endInObject
  | some b =>
    if b = 0x2C then do pass; skipMembers fuel
    else if b = 0x7D then pass
    else failPast .expectedCommaOrBrace

variable {bs' back behind gap more : List UInt8} {fuel : ℕ}

theorem quoted_append (ps : List Piece) (rest : List UInt8) :
    quoted ps ++ rest = 0x22 :: (ps.flatMap Piece.bytes ++ 0x22 :: rest) := by
  rw [quoted, List.cons_append, List.append_assoc]
  rfl

/-- One element, and the ones behind it. -/
theorem reads_skipElements (hvalue : PassesValue bs more) (hfront : AllBlank front)
    (hfuel : 2 * bs.length < fuel) (hmore : Reads (skipMoreElements fuel) more () rest) :
    Reads (skipElements (fuel + 1)) (front ++ (bs ++ more)) () rest :=
  (hvalue front fuel hfront hfuel).bind hmore

/-- One member, and the ones behind it. -/
theorem reads_skipMembers (ps : List Piece) (hvalue : PassesValue bs more) (hfront : AllBlank front)
    (hbehind : AllBlank behind) (hgap : AllBlank gap)
    (hfuel : 2 * bs.length < fuel ∧ (ps.flatMap Piece.bytes).length < fuel)
    (hmore : Reads (skipMoreMembers fuel) more () rest) :
    Reads (skipMembers (fuel + 1))
      (front ++ (quoted ps ++ (behind ++ 0x3A :: (gap ++ (bs ++ more))))) () rest := by
  rw [quoted_append]
  refine (reads_blanks hfront (b := 0x22) rfl _).bind ((reads_peek _).bind ?_)
  refine (reads_pass _ _).bind ((passes_pieces ps _ fuel hfuel.2).bind ?_)
  refine (reads_blanks hbehind (b := 0x3A) rfl _).bind ((reads_peek _).bind ?_)
  exact (reads_pass _ _).bind ((hvalue gap fuel hgap hfuel.1).bind hmore)

theorem reads_skipMoreElements_end (hback : AllBlank back) (rest : List UInt8) :
    Reads (skipMoreElements fuel) (back ++ 0x5D :: rest) () rest :=
  (reads_blanks hback (b := 0x5D) rfl _).bind ((reads_peek _).bind (reads_pass _ _))

theorem reads_skipMoreElements (hback : AllBlank back)
    (h : Reads (skipElements fuel) more () rest) :
    Reads (skipMoreElements fuel) (back ++ 0x2C :: more) () rest :=
  (reads_blanks hback (b := 0x2C) rfl _).bind ((reads_peek _).bind ((reads_pass _ _).bind h))

theorem reads_skipMoreMembers_end (hback : AllBlank back) (rest : List UInt8) :
    Reads (skipMoreMembers fuel) (back ++ 0x7D :: rest) () rest :=
  (reads_blanks hback (b := 0x7D) rfl _).bind ((reads_peek _).bind (reads_pass _ _))

theorem reads_skipMoreMembers (hback : AllBlank back)
    (h : Reads (skipMembers fuel) more () rest) :
    Reads (skipMoreMembers fuel) (back ++ 0x2C :: more) () rest :=
  (reads_blanks hback (b := 0x2C) rfl _).bind ((reads_peek _).bind ((reads_pass _ _).bind h))

/-- In front of a list the bracket is passed, and its elements go on. -/
theorem reads_skipValueWith_list (hfront : AllBlank front) (hgap : AllBlank gap) {b : UInt8}
    (hb : isBlank b = false) (hbracket : b ≠ 0x5D)
    (h : Reads (skipElements fuel) (b :: more) () rest) :
    Reads (skipValueWith (fuel + 1)) (front ++ 0x5B :: (gap ++ b :: more)) () rest := by
  refine (reads_blanks hfront (b := 0x5B) rfl _).bind ((reads_peek _).bind ?_)
  refine (reads_pass _ _).bind ((reads_blanks hgap hb _).bind ((reads_peek _).bind ?_))
  show Reads (if b = 0x5D then _ else _) _ _ _
  rw [if_neg hbracket]
  exact h

/-- In front of an object the brace is passed, and its members go on. -/
theorem reads_skipValueWith_object (hfront : AllBlank front) (hgap : AllBlank gap)
    (h : Reads (skipMembers fuel) (0x22 :: more) () rest) :
    Reads (skipValueWith (fuel + 1)) (front ++ 0x7B :: (gap ++ 0x22 :: more)) () rest := by
  refine (reads_blanks hfront (b := 0x7B) rfl _).bind ((reads_peek _).bind ?_)
  exact (reads_pass _ _).bind ((reads_blanks hgap (b := 0x22) rfl _).bind ((reads_peek _).bind h))

theorem passesValue_nil_list (hclose : AllBlank close) (rest : List UInt8) :
    PassesValue (0x5B :: (close ++ [0x5D])) rest := by
  rintro front (_ | fuel) hfront hfuel
  · exact absurd hfuel (Nat.not_lt_zero _)
  · rw [List.cons_append, List.append_assoc]
    refine (reads_blanks hfront (b := 0x5B) rfl _).bind ((reads_peek _).bind ?_)
    refine (reads_pass _ _).bind ((reads_blanks hclose (b := 0x5D) rfl rest).bind ?_)
    exact (reads_peek _).bind (reads_pass _ _)

theorem passesValue_nil_object (hclose : AllBlank close) (rest : List UInt8) :
    PassesValue (0x7B :: (close ++ [0x7D])) rest := by
  rintro front (_ | fuel) hfront hfuel
  · exact absurd hfuel (Nat.not_lt_zero _)
  · rw [List.cons_append, List.append_assoc]
    refine (reads_blanks hfront (b := 0x7B) rfl _).bind ((reads_peek _).bind ?_)
    refine (reads_pass _ _).bind ((reads_blanks hclose (b := 0x7D) rfl rest).bind ?_)
    exact (reads_peek _).bind (reads_pass _ _)

theorem passesValue_number {n : Numeral} (h : n.WellFormed) (hrest : EndsNumeral rest)
    (capital plus : Bool) : PassesValue (n.spelling capital plus) rest := by
  obtain ⟨b, more, hbytes, hb⟩ := h.spelling_starts capital plus
  have hread := reads_readNumeral (c := .invalidNumber) h hrest capital plus
  rw [hbytes, List.cons_append] at hread
  have hletter : b ≠ 0x6E ∧ b ≠ 0x74 ∧ b ≠ 0x66 := by
    refine ⟨?_, ?_, ?_⟩ <;> rintro rfl <;> exact absurd hb (by decide)
  rintro front (_ | fuel) hfront hfuel
  · exact absurd hfuel (Nat.not_lt_zero _)
  · rw [hbytes, List.cons_append]
    refine (reads_blanks hfront (not_blank_of_digit hb).1 _).bind ((reads_peek _).bind ?_)
    show Reads (if b = 0x6E then _ else if b = 0x74 then _ else if b = 0x66 then _ else
      if b = 0x2D ∨ isDigit b = true then _ else _) _ _ _
    rw [if_neg hletter.1, if_neg hletter.2.1, if_neg hletter.2.2, if_pos hb]
    exact hread.map fun _ => ()

theorem passesValue_string (ps : List Piece) (rest : List UInt8) : PassesValue (quoted ps) rest := by
  rintro front (_ | fuel) hfront hfuel
  · exact absurd hfuel (Nat.not_lt_zero _)
  · rw [quoted_append]
    refine (reads_blanks hfront (b := 0x22) rfl _).bind ((reads_peek _).bind ?_)
    refine (reads_pass _ _).bind (passes_pieces ps rest fuel ?_)
    simp only [quoted, List.length_cons, List.length_append] at hfuel
    omega

mutual

/-- A text of a value is passed up to its end. -/
theorem Spells.passes {v : Source} {bs : List UInt8} :
    Spells v bs → ∀ {rest : List UInt8}, v.Ends rest → PassesValue bs rest
  | .null, rest, _, front, fuel + 1, hfront, _ =>
    (reads_blanks hfront (b := 0x6E) rfl _).bind ((reads_peek _).bind rfl)
  | .boolean true, rest, _, front, fuel + 1, hfront, _ =>
    (reads_blanks hfront (b := 0x74) rfl _).bind ((reads_peek _).bind rfl)
  | .boolean false, rest, _, front, fuel + 1, hfront, _ =>
    (reads_blanks hfront (b := 0x66) rfl _).bind ((reads_peek _).bind rfl)
  | .number h capital plus, _, hrest, front, fuel + 1, hfront, hfuel =>
    passesValue_number h hrest capital plus front (fuel + 1) hfront hfuel
  | .string ps, rest, _, front, fuel + 1, hfront, hfuel =>
    passesValue_string ps rest front (fuel + 1) hfront hfuel
  | .list (.nil _) hclose, rest, _, front, fuel + 1, hfront, hfuel =>
    passesValue_nil_list hclose rest front (fuel + 1) hfront hfuel
  | .object (.nil _) hclose, rest, _, front, fuel + 1, hfront, hfuel =>
    passesValue_nil_object hclose rest front (fuel + 1) hfront hfuel
  | .list (.cons _ hgap value hback others) hclose, rest, _, front, fuel + 2, hfront, hfuel => by
    have hend := others.endsNumeral (endsNumeral_close hclose (.inl rfl) rest)
    have hvalue := value.passes ((endsNumeral_append hback hend).ends _)
    simp only [List.length_cons, List.length_append] at hfuel
    have hmore := others.passes hback hclose rest fuel (by omega)
    have hrow := reads_skipElements hvalue .nil (by omega) hmore
    obtain ⟨b, tail, rfl, hb⟩ := value.begins
    have h := reads_skipValueWith_list hfront hgap hb.isBlank.1 hb.isBlank.2 hrow
    simpa using h
  | .object (.cons _ ps hgap key hbehind hcolon value hback others) hclose, rest, _, front, fuel + 2,
      hfront, hfuel => by
    have hend := others.endsNumeral (endsNumeral_close hclose (.inr rfl) rest)
    have hvalue := value.passes ((endsNumeral_append hback hend).ends _)
    simp only [quoted, List.length_cons, List.length_append] at hfuel
    have hmore := others.passes hback hclose rest fuel (by omega)
    have hmembers := reads_skipMembers ps hvalue .nil hbehind hcolon ⟨by omega, by omega⟩ hmore
    rw [quoted_append] at hmembers
    have h := reads_skipValueWith_object hfront hgap hmembers
    simpa [quoted] using h
  | .list (.cons ..) _, _, _, _, 1, _, hfuel => by simp at hfuel
  | .object (.cons ..) _, _, _, _, 1, _, hfuel => by simp at hfuel
  | _, _, _, _, 0, _, hfuel => absurd hfuel (Nat.not_lt_zero _)

/-- Behind an element the others are passed, and the bracket. -/
theorem SpellsElements.passes {vs : List Source} {bs : List UInt8} :
    SpellsElements false vs bs → ∀ {back close : List UInt8}, AllBlank back → AllBlank close →
      ∀ rest fuel, 2 * bs.length < fuel →
        Reads (skipMoreElements fuel) (back ++ (bs ++ (close ++ 0x5D :: rest))) () rest
  | .nil _, back, close, hback, hclose, rest, fuel, _ => by
    simpa using reads_skipMoreElements_end (hback.append hclose) rest
  | .cons _ hfront value hback others, back, close, hback', hclose, rest, fuel + 1, hfuel => by
    have hend := others.endsNumeral (endsNumeral_close hclose (.inl rfl) rest)
    have hvalue := value.passes ((endsNumeral_append hback hend).ends _)
    simp only [List.length_append, encode_comma_false, List.length_singleton] at hfuel
    have hmore := others.passes hback hclose rest fuel (by omega)
    have hrow := reads_skipElements hvalue hfront (by omega) hmore
    have h := reads_skipMoreElements hback' hrow
    simpa using h

/-- Behind a member the others are passed, and the brace. -/
theorem SpellsMembers.passes {ms : List (String × Source)} {bs : List UInt8} :
    SpellsMembers false ms bs → ∀ {back close : List UInt8}, AllBlank back → AllBlank close →
      ∀ rest fuel, 2 * bs.length < fuel →
        Reads (skipMoreMembers fuel) (back ++ (bs ++ (close ++ 0x7D :: rest))) () rest
  | .nil _, back, close, hback, hclose, rest, fuel, _ => by
    simpa using reads_skipMoreMembers_end (hback.append hclose) rest
  | .cons _ ps hfront key hbehind hgap value hback others, back, close, hback', hclose, rest, fuel + 1,
      hfuel => by
    have hend := others.endsNumeral (endsNumeral_close hclose (.inr rfl) rest)
    have hvalue := value.passes ((endsNumeral_append hback hend).ends _)
    simp only [quoted, List.length_append, List.length_cons, encode_comma_false,
      List.length_nil] at hfuel
    have hmore := others.passes hback hclose rest fuel (by omega)
    have hmembers := reads_skipMembers ps hvalue hfront hbehind hgap ⟨by omega, by omega⟩ hmore
    have h := reads_skipMoreMembers hback' hmembers
    simpa using h

end

/-- A value that nobody asked for is passed. -/
theorem reads_skipValue (h : Spells v bs) (hfront : AllBlank front) (hrest : v.Ends rest) :
    Reads skipValue (front ++ (bs ++ rest)) () rest := by
  refine (reads_get _).bind (h.passes hrest front _ hfront ?_)
  simp only [List.length_append]
  omega

end StarSurvey.Json
