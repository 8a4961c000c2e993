import StarSurvey.Proofs.Json.Magnitude
import StarSurvey.Proofs.Json.Reader

/-!
# Numbers that are read

- **Well-formed numerals** (`Numeral.WellFormed`): digits where they belong, and no leading zero.
- **Reading** (`reads_readNumeral`, `reads_readNumber`): a well-formed numeral is read back from its
  text (`Numeral.text`), if what follows does not belong to a numeral.
- **Values** (`ensures_readNumber`): every number that is read has a finite double.
-/

namespace StarSurvey.Json

/-! ## Rows of digits -/

/-- A row of digits. -/
structure IsDigits (ds : List UInt8) : Prop where
  ne_nil : ds ≠ []
  isDigit : ∀ d ∈ ds, isDigit d = true

/-- The next byte is no digit. -/
def EndsDigits (rest : List UInt8) : Prop := ∀ b ∈ rest.head?, isDigit b = false

theorem takeWhile_isDigit {ds rest : List UInt8} (h : ∀ d ∈ ds, isDigit d = true)
    (hrest : EndsDigits rest) : (ds ++ rest).takeWhile isDigit = ds := by
  rw [List.takeWhile_append_of_pos h]
  cases rest with
  | nil => simp
  | cons b bs => rw [List.takeWhile_cons, hrest b rfl]; simp

theorem dropWhile_isDigit {ds rest : List UInt8} (h : ∀ d ∈ ds, isDigit d = true)
    (hrest : EndsDigits rest) : (ds ++ rest).dropWhile isDigit = rest := by
  rw [List.dropWhile_append_of_pos h]
  cases rest with
  | nil => rfl
  | cons b bs => rw [List.dropWhile_cons, hrest b rfl]; rfl

theorem reads_readSign (negative : Bool) {bs : List UInt8} (h : bs.head? ≠ some 0x2D) :
    Reads readSign ((if negative then [0x2D] else []) ++ bs) negative bs := by
  cases negative with
  | true => rfl
  | false =>
    refine (reads_peek bs).bind ?_
    rw [if_neg h]
    exact .pure _ _

theorem reads_readWhole {c : Cause} {ds rest : List UInt8} (h : IsDigits ds)
    (hzero : ds.head? = some 0x30 → ds = [0x30]) (hrest : EndsDigits rest) :
    Reads (readWhole c) (ds ++ rest) ds rest := by
  obtain ⟨d, more, rfl⟩ := List.exists_cons_of_ne_nil h.ne_nil
  refine (reads_next d (more ++ rest)).bind ?_
  by_cases hd : d = 0x30
  · obtain rfl : more = [] := by simpa [hd] using hzero (by rw [hd]; rfl)
    show Reads (if d = 0x30 then _ else _) rest _ _
    rw [if_pos hd]
    refine (reads_peek rest).bind ?_
    rw [if_neg]
    · exact .pure _ _
    · cases rest with
      | nil => exact Bool.false_ne_true
      | cons b bs => exact Bool.eq_false_iff.mp (hrest b rfl)
  · have hmore : ∀ e ∈ more, isDigit e = true := fun e he => h.isDigit e (List.mem_cons_of_mem _ he)
    show Reads (if d = 0x30 then _ else if isDigit d then _ else _) (more ++ rest) _ _
    rw [if_neg hd, if_pos (h.isDigit d List.mem_cons_self)]
    rw [Reads, takeWhile_isDigit hmore hrest, dropWhile_isDigit hmore hrest]

theorem reads_readFractionPart {c : Cause} {ds rest : List UInt8}
    (h : ∀ d ∈ ds, isDigit d = true) (hrest : EndsDigits rest) (hpoint : rest.head? ≠ some 0x2E) :
    Reads (readFractionPart c) ((if ds = [] then [] else 0x2E :: ds) ++ rest) ds rest := by
  cases ds with
  | nil =>
    refine (reads_peek rest).bind ?_
    rw [if_neg hpoint]
    exact .pure _ _
  | cons d more =>
    rw [if_neg (List.cons_ne_nil d more)]
    refine (reads_peek _).bind ?_
    refine (reads_pass 0x2E _).bind ?_
    refine (reads_peek _).bind ?_
    show Reads (if isDigit d then _ else _) (d :: more ++ rest) _ _
    rw [if_pos (h d List.mem_cons_self)]
    rw [Reads, takeWhile_isDigit h hrest, dropWhile_isDigit h hrest]

/-- An exponent with its letter and its sign. -/
def Exponent.text (x : Exponent) : List UInt8 :=
  0x65 :: (if x.negative then 0x2D else 0x2B) :: x.digits

/-- The sign of an exponent, if it is written. -/
def Exponent.sign (x : Exponent) (plus : Bool) : List UInt8 :=
  if x.negative then [0x2D] else if plus then [0x2B] else []

/-- An exponent behind either letter, with a plus sign or without. -/
def Exponent.spelling (x : Exponent) (capital plus : Bool) : List UInt8 :=
  (if capital then 0x45 else 0x65) :: (x.sign plus ++ x.digits)

theorem Exponent.spelling_eq_text (x : Exponent) : x.spelling false true = x.text := by
  obtain ⟨negative, digits⟩ := x
  cases negative <;> rfl

theorem reads_readExponentPart_none {c : Cause} {rest : List UInt8}
    (h : ∀ b ∈ rest.head?, b ≠ 0x65 ∧ b ≠ 0x45) : Reads (readExponentPart c) rest none rest := by
  refine (reads_peek rest).bind ?_
  rw [if_neg]
  · exact .pure _ _
  · cases rest with
    | nil => exact Bool.false_ne_true
    | cons b bs => simpa using h b rfl

theorem reads_readExponent {c : Cause} {x : Exponent} {rest : List UInt8}
    (h : IsDigits x.digits) (hrest : EndsDigits rest) (plus : Bool) :
    Reads (readExponent c) (x.sign plus ++ (x.digits ++ rest)) x rest := by
  obtain ⟨negative, digits⟩ := x
  obtain ⟨d, more, rfl⟩ := List.exists_cons_of_ne_nil h.ne_nil
  have hd := h.isDigit d List.mem_cons_self
  have hmore : ∀ e ∈ more, isDigit e = true := fun e he => h.isDigit e (List.mem_cons_of_mem _ he)
  have hdigits : Reads (fun bs => .ok (⟨negative, d :: bs.takeWhile isDigit⟩, bs.dropWhile isDigit) :
      Reader Exponent) (more ++ rest) ⟨negative, d :: more⟩ rest := by
    rw [Reads, takeWhile_isDigit hmore hrest, dropWhile_isDigit hmore hrest]
  refine (reads_peek _).bind ?_
  cases negative with
  | true =>
    refine (reads_pass _ _).bind ((reads_next d (more ++ rest)).bind ?_)
    show Reads (if isDigit d then _ else _) _ _ _
    rw [if_pos hd]
    exact hdigits
  | false =>
    cases plus with
    | true =>
      refine (reads_pass _ _).bind ((reads_next d (more ++ rest)).bind ?_)
      show Reads (if isDigit d then _ else _) _ _ _
      rw [if_pos hd]
      exact hdigits
    | false =>
      -- without a sign the first digit is seen in its place
      have hplus : d ≠ 0x2B := fun h => by rw [h] at hd; cases hd
      have hminus : d ≠ 0x2D := fun h => by rw [h] at hd; cases hd
      have hhead : ((⟨false, d :: more⟩ : Exponent).sign false ++ (d :: more ++ rest)).head? = some d :=
        rfl
      dsimp only
      rw [hhead, if_neg (by simp [hplus, hminus])]
      refine (reads_next d (more ++ rest)).bind ?_
      show Reads (if isDigit d then _ else _) _ _ _
      rw [if_pos hd]
      have hsign : decide (some d = some (0x2D : UInt8)) = false := by simp [hminus]
      rw [hsign]
      exact hdigits

theorem reads_readExponentPart {c : Cause} {x : Exponent} {rest : List UInt8}
    (h : IsDigits x.digits) (hrest : EndsDigits rest) (capital plus : Bool) :
    Reads (readExponentPart c) (x.spelling capital plus ++ rest) (some x) rest := by
  have hexponent := (reads_readExponent (c := c) h hrest plus).map some
  rw [Exponent.spelling, List.cons_append, List.append_assoc]
  refine (reads_peek _).bind ?_
  cases capital
  all_goals exact (reads_pass _ _).bind hexponent

namespace Numeral

/-- What a numeral is made of. -/
structure WellFormed (n : Numeral) : Prop where
  whole : IsDigits n.whole
  leading : n.whole.head? = some 0x30 → n.whole = [0x30]
  fraction : ∀ d ∈ n.fraction, isDigit d = true
  exponent : ∀ x, n.exponent = some x → IsDigits x.digits

/-- A numeral as it is written, a positive exponent with its sign. -/
def text (n : Numeral) : List UInt8 :=
  (if n.negative then [0x2D] else []) ++ (n.whole ++
    ((if n.fraction = [] then [] else 0x2E :: n.fraction) ++ n.exponent.elim [] Exponent.text))

/-- A numeral with its exponent behind either letter, with a plus sign or without. -/
def spelling (n : Numeral) (capital plus : Bool) : List UInt8 :=
  (if n.negative then [0x2D] else []) ++ (n.whole ++
    ((if n.fraction = [] then [] else 0x2E :: n.fraction) ++
      n.exponent.elim [] (·.spelling capital plus)))

theorem spelling_eq_text (n : Numeral) : n.spelling false true = n.text := by
  rw [spelling, text]
  cases n.exponent with
  | none => rfl
  | some x => rw [Option.elim_some, Option.elim_some, x.spelling_eq_text]

end Numeral

/-- The next byte does not belong to a numeral. -/
def EndsNumeral (rest : List UInt8) : Prop :=
  ∀ b ∈ rest.head?, isDigit b = false ∧ b ≠ 0x2E ∧ b ≠ 0x65 ∧ b ≠ 0x45

theorem EndsNumeral.endsDigits {rest : List UInt8} (h : EndsNumeral rest) : EndsDigits rest :=
  fun b hb => (h b hb).1

theorem head?_append_of_ne_nil {bs rest : List UInt8} (h : bs ≠ []) :
    (bs ++ rest).head? = bs.head? := by
  cases bs with
  | nil => exact absurd rfl h
  | cons b bs => rfl

/-- A well-formed numeral is read from each of its spellings. -/
theorem reads_readNumeral {c : Cause} {n : Numeral} (h : n.WellFormed) {rest : List UInt8}
    (hrest : EndsNumeral rest) (capital plus : Bool) :
    Reads (readNumeral c) (n.spelling capital plus ++ rest) n rest := by
  obtain ⟨negative, whole, fraction, exponent⟩ := n
  obtain ⟨hwhole, hleading, hfraction, hexponent⟩ := h
  -- what follows the fraction, and what follows the whole digits
  have hlast : ∀ b ∈ (exponent.elim [] (·.spelling capital plus) ++ rest).head?,
      isDigit b = false ∧ b ≠ 0x2E := by
    intro b hb
    cases exponent with
    | none => exact ⟨(hrest b hb).1, (hrest b hb).2.1⟩
    | some x =>
      cases hb
      cases capital <;> decide
  have hmiddle : EndsDigits ((if fraction = [] then [] else 0x2E :: fraction) ++
      (exponent.elim [] (·.spelling capital plus) ++ rest)) := by
    intro b hb
    cases fraction with
    | nil => exact (hlast b hb).1
    | cons d ds =>
      cases hb
      decide
  have hminus : (whole ++ ((if fraction = [] then [] else 0x2E :: fraction) ++
      (exponent.elim [] (·.spelling capital plus) ++ rest))).head? ≠ some 0x2D := by
    rw [head?_append_of_ne_nil hwhole.ne_nil]
    intro hhead
    have := hwhole.isDigit 0x2D (List.mem_of_mem_head? hhead)
    cases this
  have hexp : Reads (readExponentPart c) (exponent.elim [] (·.spelling capital plus) ++ rest)
      exponent rest := by
    cases exponent with
    | none => exact reads_readExponentPart_none fun b hb => (hrest b hb).2.2
    | some x => exact reads_readExponentPart (hexponent x rfl) hrest.endsDigits capital plus
  simp only [Numeral.spelling, List.append_assoc]
  refine (reads_readSign negative hminus).bind ?_
  refine (reads_readWhole hwhole hleading hmiddle).bind ?_
  refine (reads_readFractionPart hfraction (fun b hb => (hlast b hb).1)
    fun hhead => (hlast _ hhead).2 rfl).bind ?_
  exact hexp.bind (.pure _ _)

theorem reads_readNumber {n : Numeral} (h : n.WellFormed) {v : Number} (hv : n.value = .ok v)
    {rest : List UInt8} (hrest : EndsNumeral rest) : Reads readNumber (n.text ++ rest) v rest := by
  rw [← n.spelling_eq_text]
  refine (reads_readNumeral h hrest false true).bind ?_
  rw [hv]
  exact .pure v rest

theorem ensures_readNumber : Ensures readNumber fun v => v.toFloat.isFinite = true := by
  refine .bind_of_forall fun n => ?_
  cases h : n.value with
  | error back => exact fun _ _ _ hr => nomatch hr
  | ok v => exact .pure (Numeral.isFinite_value h)

end StarSurvey.Json
