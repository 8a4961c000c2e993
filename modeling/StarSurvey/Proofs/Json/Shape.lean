import StarSurvey.Json.Shape
import StarSurvey.Proofs.Calendar.Timestamp
import StarSurvey.Proofs.Json.Pieces
import StarSurvey.Proofs.Json.Spelling

/-!
# Values that are read back by shape

- **Text** (`ReadsText`): a reader reads a text as a value, whatever blanks stand in front of it and
  whatever stands behind it that cannot belong to it.
- **Scalars** (`readsText_readText`, `readsText_readFloat`, `readsText_readCount`,
  `readsText_readInstant`).
- **Lists** (`readsText_readList`): in whatever spacing, a list is read back if its elements are.
- **Objects** (`readsText_read`): an object is read back if its members are, one after the other, and
  set all the parts (`MembersRead`).
- **Documents** (`decode_pretty`, `decode_compact`).
-/

namespace StarSurvey.Json

open StarSurvey.Text (encode)

variable {α β : Type}

/-! ## Text -/

/-- A reader reads a text as a value. -/
structure ReadsText (r : Reader α) (cs : List Char) (a : α) : Prop where
  starts : ∃ b bs, encode cs = b :: bs ∧ isBlank b = false ∧ b ≠ 0x5D
  reads : ∀ bl rest, AllBlank bl → EndsNumeral rest → Reads r (bl ++ (encode cs ++ rest)) a rest

theorem ReadsText.map {r : Reader α} {cs : List Char} {a : α} (f : α → β) (h : ReadsText r cs a) :
    ReadsText (f <$> r) cs (f a) :=
  ⟨h.starts, fun bl rest hbl hrest => (h.reads bl rest hbl hrest).map f⟩

variable {bl : List UInt8}

theorem reads_firstByte (hbl : AllBlank bl) {b : UInt8} (hb : isBlank b = false)
    (rest : List UInt8) : Reads firstByte (bl ++ b :: rest) b (b :: rest) :=
  (reads_blanks hbl hb rest).bind ((reads_peek _).bind (.pure b _))

theorem endsNumeral_cons {b : UInt8}
    (h : isDigit b = false ∧ b ≠ 0x2E ∧ b ≠ 0x65 ∧ b ≠ 0x45) (rest : List UInt8) :
    EndsNumeral (b :: rest) := by
  intro c hc
  cases hc
  exact h

/-- Blanks end a numeral. -/
theorem endsNumeral_append (hbl : AllBlank bl) {rest : List UInt8} (h : EndsNumeral rest) :
    EndsNumeral (bl ++ rest) := by
  cases bl with
  | nil => exact h
  | cons b bs =>
    have hblank := hbl b List.mem_cons_self
    simp only [isBlank, Bool.or_eq_true, beq_iff_eq] at hblank
    apply endsNumeral_cons
    rcases hblank with ((rfl | rfl) | rfl) | rfl <;> decide

/-! ## Scalars -/

theorem encode_quote (s : String) (rest : List UInt8) :
    encode (quote s) ++ rest = 0x22 :: (encode (s.toList.flatMap escapeChar) ++ 0x22 :: rest) := by
  rw [quote, List.cons_append, Text.encode_cons_of_lt (by decide), Text.encode_append,
    List.cons_append, List.append_assoc]
  rfl

theorem readsText_readStringAs (expected s : String) :
    ReadsText (readStringAs expected) (quote s) s := by
  refine ⟨⟨0x22, _, by rw [← List.append_nil (encode _), encode_quote], rfl, by decide⟩, ?_⟩
  intro bl rest hbl _
  rw [encode_quote]
  refine (reads_firstByte hbl rfl _).bind ?_
  rw [if_pos rfl]
  exact (reads_pass _ _).bind (reads_readString s rest)

theorem readsText_readText (s : String) : ReadsText readText (quote s) s :=
  readsText_readStringAs _ s

theorem readsText_readInstant (i : Calendar.Instant) :
    ReadsText readInstant (quote i.timestamp) i := by
  refine ⟨(readsText_readText i.timestamp).starts, fun bl rest hbl hrest => ?_⟩
  refine ((readsText_readStringAs _ i.timestamp).reads bl rest hbl hrest).bind ?_
  rw [i.ofText_timestamp]
  exact .pure i rest

/-- A numeral begins with its sign or with a digit. -/
theorem Numeral.WellFormed.spelling_starts {n : Numeral} (h : n.WellFormed) (capital plus : Bool) :
    ∃ b bs, n.spelling capital plus = b :: bs ∧ (b = 0x2D ∨ isDigit b = true) := by
  obtain ⟨d, ds, hd⟩ := List.exists_cons_of_ne_nil h.whole.ne_nil
  have hdigit := h.whole.isDigit d (hd ▸ List.mem_cons_self)
  rw [Numeral.spelling, hd]
  cases n.negative with
  | true => exact ⟨_, _, rfl, .inl rfl⟩
  | false => exact ⟨d, _, rfl, .inr hdigit⟩

theorem Numeral.WellFormed.starts {n : Numeral} (h : n.WellFormed) :
    ∃ b bs, n.text = b :: bs ∧ (b = 0x2D ∨ isDigit b = true) := by
  rw [← n.spelling_eq_text]
  exact h.spelling_starts false true

theorem not_blank_of_digit {b : UInt8} (h : b = 0x2D ∨ isDigit b = true) :
    isBlank b = false ∧ b ≠ 0x5D := by
  rcases h with rfl | h
  · decide
  · refine ⟨Bool.eq_false_iff.mpr fun hblank => ?_, fun hbracket => ?_⟩
    · simp only [isBlank, Bool.or_eq_true, beq_iff_eq] at hblank
      rcases hblank with ((rfl | rfl) | rfl) | rfl <;> cases h
    · rw [hbracket] at h
      cases h

theorem readsText_readNumberAs (expected : String) {cs : List Char} {n : Numeral} {v : Number}
    (hn : n.WellFormed) (hv : n.value = .ok v) (hcs : encode cs = n.text) :
    ReadsText (readNumberAs expected) cs v := by
  obtain ⟨b, bs, htext, hb⟩ := hn.starts
  obtain ⟨hblank, hbracket⟩ := not_blank_of_digit hb
  refine ⟨⟨b, bs, hcs.trans htext, hblank, hbracket⟩, fun bl rest hbl hrest => ?_⟩
  have hread := reads_readNumber hn hv hrest
  rw [hcs]
  rw [htext, List.cons_append] at hread ⊢
  refine (reads_firstByte hbl hblank _).bind ?_
  rw [if_pos hb]
  exact hread

/-- Every finite coordinate is read back as some number. -/
theorem readsText_readFloat {x : Float} (hx : x.isFinite = true) :
    ReadsText readFloat (Number.float x).chars (reread x) := by
  obtain ⟨n, hn, hv, hchars⟩ := exists_numeral_float hx
  exact (readsText_readNumberAs _ hn hv hchars).map Number.toFloat

theorem readsText_readCount {n : ℕ} (hn : n < UInt64.size) :
    ReadsText readCount (Number.integer n).chars n := by
  obtain ⟨u, hu, hv, hchars⟩ := exists_numeral_count hn
  have hnumber := readsText_readNumberAs "usize" hu hv hchars
  refine ⟨hnumber.starts, fun bl rest hbl hrest => (hnumber.reads bl rest hbl hrest).bind ?_⟩
  show Reads (if 0 ≤ (n : ℤ) then Pure.pure (n : ℤ).toNat else _) _ _ _
  rw [if_pos (Int.natCast_nonneg n), Int.toNat_natCast]
  exact .pure n rest

/-! ## Lists -/

theorem length_le_length_encode (cs : List Char) : cs.length ≤ (encode cs).length := by
  induction cs with
  | nil => exact le_refl 0
  | cons c cs ih =>
    have hpos := List.length_pos_iff.mpr (String.utf8EncodeChar_ne_nil (c := c))
    rw [Text.encode_cons, List.length_append, List.length_cons]
    have hc : 0 < (Text.charBytes c).length := hpos
    omega

variable {l : Spacing} {depth : ℕ}

theorem reads_nextElement_end (first : Bool) (hbl : AllBlank bl) (rest : List UInt8) :
    Reads (nextElement first) (bl ++ 0x5D :: rest) false (0x5D :: rest) :=
  (reads_blanks hbl rfl rest).bind ((reads_peek _).bind (.pure false _))

theorem reads_nextElement_of_blanks (first : Bool) {back : List UInt8} (hback : AllBlank back)
    (hbl : AllBlank bl) {b : UInt8} (hb : isBlank b = false) (hbracket : b ≠ 0x5D)
    (rest : List UInt8) :
    Reads (nextElement first) (back ++ (encode (comma first) ++ (bl ++ b :: rest))) true
      (b :: rest) := by
  cases first with
  | true =>
    rw [encode_comma_true, List.nil_append, ← List.append_assoc]
    refine (reads_blanks (hback.append hbl) hb rest).bind ((reads_peek _).bind ?_)
    show Reads (if b = 0x5D then _ else _) _ _ _
    rw [if_neg hbracket]
    exact .pure true _
  | false =>
    refine (reads_blanks hback (b := 0x2C) rfl _).bind ((reads_peek _).bind ?_)
    refine (reads_pass _ _).bind ((reads_blanks hbl hb rest).bind ((reads_peek _).bind ?_))
    show Reads (if b = 0x5D then _ else _) _ _ _
    rw [if_neg hbracket]
    exact .pure true _

theorem reads_nextElement (first : Bool) (hbl : AllBlank bl) {b : UInt8} (hb : isBlank b = false)
    (hbracket : b ≠ 0x5D) (rest : List UInt8) :
    Reads (nextElement first) (encode (comma first) ++ (bl ++ b :: rest)) true (b :: rest) :=
  reads_nextElement_of_blanks first .nil hbl hb hbracket rest

/-- What stands behind an element or a member ends a numeral. -/
theorem endsNumeral_comma (cs : List Char) (rest : List UInt8) :
    EndsNumeral (encode (comma false ++ cs) ++ rest) :=
  endsNumeral_cons (by decide) _

theorem reads_readElements {item : Reader α} {vs : List Value} {as : List α}
    (h : List.Forall₂ (fun v a => ReadsText item (v.charsIn l depth) a) vs as)
    (hbl : AllBlank bl) (rest : List UInt8) (first : Bool) (fuel : ℕ) (hfuel : vs.length < fuel) :
    Reads (readElements item fuel first)
      (encode (elementsIn l depth first vs) ++ (bl ++ 0x5D :: rest)) as (0x5D :: rest) := by
  -- all that changes from round to round is that the element is no longer the first
  induction h generalizing first fuel with
  | nil =>
    obtain ⟨n, rfl⟩ := Nat.exists_eq_add_of_le' hfuel
    exact (reads_nextElement_end first hbl rest).bind (.pure [] _)
  | @cons v a vs as hv hvs ih =>
    obtain ⟨n, rfl⟩ := Nat.exists_eq_add_of_le' (Nat.lt_of_le_of_lt (Nat.zero_le _) hfuel)
    obtain ⟨b, bs, hstart, hb, hbracket⟩ := hv.starts
    have hend : EndsNumeral (encode (elementsIn l depth false vs) ++ (bl ++ 0x5D :: rest)) := by
      cases vs with
      | nil => exact endsNumeral_append hbl (endsNumeral_cons (by decide) rest)
      | cons w ws => exact endsNumeral_comma _ _
    have hitem := hv.reads [] _ .nil hend
    rw [hstart] at hitem
    rw [elementsIn, Text.encode_append, Text.encode_append, Text.encode_append, hstart]
    simp only [List.append_assoc, List.cons_append]
    refine (reads_nextElement first (l.allBlank_line depth) hb hbracket _).bind ?_
    refine Reads.bind hitem ?_
    refine (ih false n ?_).bind (.pure _ _)
    rw [List.length_cons] at hfuel
    omega

/-- There is a comma for every element but the first. -/
theorem length_le_elementsIn (first : Bool) (vs : List Value) :
    vs.length ≤ (elementsIn l depth first vs).length + first.toNat := by
  induction vs generalizing first with
  | nil => exact Nat.zero_le _
  | cons v vs ih =>
    have hcomma : 1 ≤ (comma first).length + first.toNat := by cases first <;> decide
    have hrest := ih false
    simp only [elementsIn, List.length_append, List.length_cons, Bool.toNat_false] at hrest ⊢
    omega

/-- A list is read back if its elements are. -/
theorem readsText_readList {item : Reader α} {vs : List Value} {as : List α}
    (h : List.Forall₂ (fun v a => ReadsText item (v.charsIn l (depth + 1)) a) vs as) :
    ReadsText (readList item) ((Value.list vs).charsIn l depth) as := by
  rw [Value.charsIn]
  generalize hclosing : l.closing vs.isEmpty depth = bl
  have hbl : AllBlank (encode bl) := hclosing ▸ l.allBlank_closing _ _
  refine ⟨⟨0x5B, _, Text.encode_cons_of_lt (by decide) _, rfl, by decide⟩, ?_⟩
  intro front rest hfront _
  have hencode : encode ('[' :: (elementsIn l (depth + 1) true vs ++ (bl ++ [']']))) ++ rest =
      0x5B :: (encode (elementsIn l (depth + 1) true vs) ++ (encode bl ++ 0x5D :: rest)) := by
    rw [Text.encode_cons_of_lt (by decide), Text.encode_append, Text.encode_append]
    simp only [List.append_assoc, List.cons_append]
    rfl
  rw [hencode]
  refine (reads_firstByte hfront rfl _).bind ?_
  rw [if_pos rfl]
  refine (reads_pass _ _).bind ((reads_get _).bind ?_)
  refine (reads_readElements h hbl rest true _ ?_).bind ?_
  · have hcount : vs.length ≤ (elementsIn l (depth + 1) true vs).length + 1 :=
      length_le_elementsIn true vs
    have hencode := length_le_length_encode (elementsIn l (depth + 1) true vs)
    simp only [List.length_append, List.length_cons]
    omega
  · have hclose : Reads endList (0x5D :: rest) () rest :=
      (reads_blanks .nil (b := 0x5D) rfl rest).bind ((reads_peek _).bind (reads_pass _ _))
    exact hclose.bind (.pure as rest)

/-! ## Objects -/

theorem length_le_membersIn (first : Bool) (ms : List (String × Value)) :
    ms.length ≤ (membersIn l depth first ms).length := by
  induction ms generalizing first with
  | nil => exact le_refl 0
  | cons m ms ih =>
    have hrest := ih false
    simp only [membersIn, List.length_append, List.length_cons]
    omega

namespace Shape

theorem reads_nextKey_end (first : Bool) (hbl : AllBlank bl) (rest : List UInt8) :
    Reads (nextKey first) (bl ++ 0x7D :: rest) false (0x7D :: rest) :=
  (reads_blanks hbl rfl rest).bind ((reads_peek _).bind (.pure false _))

theorem reads_nextKey_of_blanks (first : Bool) {back : List UInt8} (hback : AllBlank back)
    (hbl : AllBlank bl) (rest : List UInt8) :
    Reads (nextKey first) (back ++ (encode (comma first) ++ (bl ++ 0x22 :: rest))) true rest := by
  cases first with
  | true =>
    rw [encode_comma_true, List.nil_append, ← List.append_assoc]
    refine (reads_blanks (hback.append hbl) (b := 0x22) rfl rest).bind ((reads_peek _).bind ?_)
    exact (reads_pass _ _).bind (.pure true rest)
  | false =>
    refine (reads_blanks hback (b := 0x2C) rfl _).bind ((reads_peek _).bind ?_)
    refine (reads_pass _ _).bind ((reads_blanks hbl rfl rest).bind ((reads_peek _).bind ?_))
    exact (reads_pass _ _).bind (.pure true rest)

theorem reads_nextKey (first : Bool) (hbl : AllBlank bl) (rest : List UInt8) :
    Reads (nextKey first) (encode (comma first) ++ (bl ++ 0x22 :: rest)) true rest :=
  reads_nextKey_of_blanks first .nil hbl rest

theorem reads_colon (hbl : AllBlank bl) (rest : List UInt8) :
    Reads colon (bl ++ 0x3A :: rest) () rest :=
  (reads_blanks hbl (b := 0x3A) rfl rest).bind ((reads_peek _).bind (reads_pass _ _))

variable {σ : Type}

/-- Members are read one after the other, each as a field that is not set yet. -/
inductive MembersRead (fields : List (Field σ)) (l : Spacing) (depth : ℕ) :
    σ → List (String × Value) → σ → Prop where
  | nil (p : σ) : MembersRead fields l depth p [] p
  | cons {p q last : σ} {k : String} {v : Value} {ms : List (String × Value)} {f : Field σ}
      (found : fields.find? (fun f => f.name == k) = some f) (unset : f.isSet p = false)
      (value : ReadsText (f.read p) (v.charsIn l depth) q)
      (more : MembersRead fields l depth q ms last) :
      MembersRead fields l depth p ((k, v) :: ms) last

/-- One round: the key is passed, and its field goes on. -/
theorem readMembers_eq {fields : List (Field σ)} {p : σ} {k : String} {f : Field σ}
    (found : fields.find? (fun f => f.name == k) = some f) (unset : f.isSet p = false)
    (v : Value) (ms : List (String × Value)) (first : Bool) (fuel : ℕ) (rest : List UInt8) :
    readMembers fields (fuel + 1) first p (encode (membersIn l depth first ((k, v) :: ms)) ++ rest) =
      (f.read p >>= readMembers fields fuel false)
        (encode l.gap ++ (encode (v.charsIn l depth) ++
          (encode (membersIn l depth false ms) ++ rest))) := by
  rw [membersIn]
  simp only [Text.encode_append, List.append_assoc, encode_quote]
  rw [Text.encode_cons_of_lt (by decide)]
  simp only [Text.encode_append, List.append_assoc, List.cons_append]
  refine (reads_nextKey first (l.allBlank_line depth) _).bind_eq.trans ?_
  refine (reads_readString k _).bind_eq.trans ?_
  rw [found]
  show (if f.isSet p then _ else _ : Reader σ) _ = _
  rw [if_neg (by rw [unset]; exact Bool.false_ne_true)]
  exact (reads_colon .nil _).bind_eq

theorem reads_readMembers {fields : List (Field σ)} {p last : σ}
    {ms : List (String × Value)} (h : MembersRead fields l depth p ms last) (hbl : AllBlank bl)
    (rest : List UInt8) (first : Bool) (fuel : ℕ) (hfuel : ms.length < fuel) :
    Reads (readMembers fields fuel first p)
      (encode (membersIn l depth first ms) ++ (bl ++ 0x7D :: rest)) last (0x7D :: rest) := by
  induction h generalizing first fuel with
  | nil p =>
    obtain ⟨n, rfl⟩ := Nat.exists_eq_add_of_le' hfuel
    exact (reads_nextKey_end first hbl rest).bind (.pure p _)
  | @cons p q last k v ms f hfound hunset hvalue hmore ih =>
    obtain ⟨n, rfl⟩ := Nat.exists_eq_add_of_le' (Nat.lt_of_le_of_lt (Nat.zero_le _) hfuel)
    have hend : EndsNumeral (encode (membersIn l depth false ms) ++ (bl ++ 0x7D :: rest)) := by
      cases ms with
      | nil => exact endsNumeral_append hbl (endsNumeral_cons (by decide) rest)
      | cons m ms => exact endsNumeral_comma _ _
    refine (readMembers_eq hfound hunset v ms first n _).trans ?_
    refine (hvalue.reads _ _ l.allBlank_gap hend).bind (ih false n ?_)
    rw [List.length_cons] at hfuel
    omega

/-- The members behind a brace, and what is made of them behind the brace that closes it. -/
def body (shape : Shape σ α) (fuel : ℕ) : Reader α := do
  let parts ← readMembers shape.fields fuel true shape.none
  pass
  shape.finish parts

/-- In front of an object the brace is passed, and its members go on. -/
theorem exists_read_eq (shape : Shape σ α) (l : Spacing) (depth : ℕ) (ms : List (String × Value))
    (hbl : AllBlank bl) (rest : List UInt8) :
    ∃ fuel, ms.length < fuel ∧ shape.read (bl ++ (encode ((Value.object ms).charsIn l depth) ++ rest)) =
      shape.body fuel (encode (membersIn l (depth + 1) true ms) ++
        (encode (l.closing ms.isEmpty depth) ++ 0x7D :: rest)) := by
  have hencode : encode ((Value.object ms).charsIn l depth) ++ rest =
      0x7B :: (encode (membersIn l (depth + 1) true ms) ++
        (encode (l.closing ms.isEmpty depth) ++ 0x7D :: rest)) := by
    rw [Value.charsIn, Text.encode_cons_of_lt (by decide), Text.encode_append, Text.encode_append]
    simp only [List.append_assoc, List.cons_append]
    rfl
  rw [hencode]
  refine ⟨(encode (membersIn l (depth + 1) true ms) ++
    (encode (l.closing ms.isEmpty depth) ++ 0x7D :: rest)).length + 1, ?_, ?_⟩
  · have hcount : ms.length ≤ (membersIn l (depth + 1) true ms).length :=
      length_le_membersIn true ms
    have hbytes := length_le_length_encode (membersIn l (depth + 1) true ms)
    rw [List.length_append]
    omega
  · refine (reads_firstByte hbl rfl _).bind_eq.trans ?_
    rw [if_pos rfl]
    exact (reads_pass _ _).bind_eq.trans (reads_get _).bind_eq

/-- An object is read back if its members set the parts. -/
theorem readsText_read {shape : Shape σ α} {ms : List (String × Value)} {last : σ}
    {a : α} (h : MembersRead shape.fields l (depth + 1) shape.none ms last)
    (hwhole : shape.whole last = some a) :
    ReadsText shape.read ((Value.object ms).charsIn l depth) a := by
  refine ⟨⟨0x7B, _, Text.encode_cons_of_lt (by decide) _, rfl, by decide⟩, ?_⟩
  intro front rest hfront _
  obtain ⟨fuel, hfuel, hread⟩ := exists_read_eq shape l depth ms hfront rest
  refine hread.trans ?_
  refine (reads_readMembers h (l.allBlank_closing _ _) rest true fuel hfuel).bind
    ((reads_pass _ _).bind ?_)
  rw [finish, hwhole]
  exact .pure a rest

end Shape

/-! ## Documents -/

/-- A document is decoded if its value is read back. -/
theorem decode_charsIn {r : Reader α} {v : Value} {a : α} (h : ReadsText r (v.charsIn l 0) a) :
    decode r (encode (v.charsIn l 0)) = .ok a := by
  have hread := h.reads [] [] .nil fun _ hb => nomatch hb
  rw [List.nil_append, List.append_nil] at hread
  rw [decode_eq_ok_iff]
  exact ⟨[], hread.bind ((reads_modify (List.dropWhile isBlank) []).bind
    ((reads_peek []).bind (.pure a [])))⟩

theorem decode_pretty {r : Reader α} {v : Value} {a : α}
    (h : ReadsText r (v.charsIn .indented 0) a) : decode r (Text.bytes v.pretty) = .ok a := by
  rw [Value.pretty, Text.bytes_ofList, Value.prettyChars_eq]
  exact decode_charsIn h

theorem decode_compact {r : Reader α} {v : Value} {a : α}
    (h : ReadsText r (v.charsIn .compact 0) a) : decode r (Text.bytes v.compact) = .ok a := by
  rw [Value.compact, Text.bytes_ofList, Value.compactChars_eq v 0]
  exact decode_charsIn h

end StarSurvey.Json
