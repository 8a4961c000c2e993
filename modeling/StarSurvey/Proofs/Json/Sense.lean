import StarSurvey.Proofs.Json.Ensures
import StarSurvey.Proofs.Json.Passing

/-!
# What a value is taken for

A reader may take a value in some sense: as the text that a string says, as the double nearest to a
number, as an instant. It takes the value in each of its texts, or fails on each of them (`Takes`), so
what a document is decoded as depends on its value only.

- **Scalars** (`takes_readText`, `takes_readFloat`, `takes_readInstant`).
- **Documents** (`Takes.decode_iff`, `Takes.decodesTo_iff`).
-/

namespace StarSurvey.Json

open StarSurvey.Text (encode)

variable {α β : Type} {v : Source} {bs front rest : List UInt8}

/-- A reader settles all texts of a value in the same sense. -/
def Takes (r : Reader α) (sense : Source → Option α) : Prop :=
  ∀ ⦃v bs⦄, Spells v bs → ∀ ⦃front rest⦄, AllBlank front → v.Ends rest →
    Settles r (front ++ (bs ++ rest)) (sense v) rest

theorem Takes.map {r : Reader α} {sense : Source → Option α} (f : α → β) (h : Takes r sense) :
    Takes (f <$> r) fun v => (sense v).map f :=
  fun _ _ hv _ _ hfront hrest => (h hv hfront hrest).map f

/-! ## Scalars -/

/-- The text that a string says. -/
def Source.text? : Source → Option String
  | .string s => s
  | _ => none

/-- A number that is in range. -/
def Source.number? : Source → Option Number
  | .number n => n.value.toOption
  | _ => none

/-- The double nearest to a number. -/
def Source.double? (v : Source) : Option Float := v.number?.map Number.toFloat

/-- The instant that a string says. -/
def Source.instant? (v : Source) : Option Calendar.Instant :=
  v.text?.bind fun s => (Calendar.Instant.ofText s).toOption

namespace Source.BeginsWith

theorem exists_string (h : v.BeginsWith 0x22) : ∃ s, v = .string s := by
  cases v <;> simp [BeginsWith, isDigit] at h ⊢

theorem exists_number {b : UInt8} (h : v.BeginsWith b) (hb : b = 0x2D ∨ isDigit b = true) :
    ∃ n, v = .number n := by
  cases v with
  | number n => exact ⟨n, rfl⟩
  | boolean c => rcases h with rfl | rfl <;> exact absurd hb (by decide)
  | null => cases h; exact absurd hb (by decide)
  | string s => cases h; exact absurd hb (by decide)
  | list vs => cases h; exact absurd hb (by decide)
  | object ms => cases h; exact absurd hb (by decide)

theorem exists_list (h : v.BeginsWith 0x5B) : ∃ vs, v = .list vs := by
  cases v <;> simp [BeginsWith, isDigit] at h ⊢

theorem exists_object (h : v.BeginsWith 0x7B) : ∃ ms, v = .object ms := by
  cases v <;> simp [BeginsWith, isDigit] at h ⊢

end Source.BeginsWith

theorem Source.text?_eq_some_iff {s : String} : v.text? = some s ↔ v = .string (some s) := by
  cases v <;> simp [text?]

theorem Source.double?_eq_some_iff {x : Float} :
    v.double? = some x ↔ ∃ n c, v = .number n ∧ n.value = .ok c ∧ c.toFloat = x := by
  cases v with
  | number n => cases hn : n.value <;> simp [double?, number?, Except.toOption, hn]
  | null | boolean b | string s | list vs | object ms => simp [double?, number?]

theorem Source.instant?_eq_some_iff {i : Calendar.Instant} :
    v.instant? = some i ↔ ∃ s, v = .string (some s) ∧ Calendar.Instant.ofText s = .ok i := by
  have hok : ∀ s, (Calendar.Instant.ofText s).toOption = some i ↔
      Calendar.Instant.ofText s = .ok i := by
    intro s
    cases Calendar.Instant.ofText s <;> simp [Except.toOption]
  simp only [instant?, Option.bind_eq_some_iff, text?_eq_some_iff, hok]

/-- A reader that goes by the first byte. -/
theorem settles_firstByte {f : UInt8 → Reader α} {expected : Option α} (hv : Spells v bs)
    (hfront : AllBlank front)
    (h : ∀ b, v.BeginsWith b → Settles (f b) (bs ++ rest) expected rest) :
    Settles (firstByte >>= f) (front ++ (bs ++ rest)) expected rest := by
  obtain ⟨b, more, hbs, hb⟩ := hv.begins
  have hnext := h b hb
  rw [hbs, List.cons_append] at hnext ⊢
  exact (reads_firstByte hfront hb.isBlank.1 _).settles_bind hnext

theorem takes_readStringAs (expected : String) : Takes (readStringAs expected) Source.text? := by
  intro v bs hv front rest hfront _
  refine settles_firstByte hv hfront fun b hb => ?_
  split
  · rename_i hquote
    subst hquote
    obtain ⟨s, rfl⟩ := hb.exists_string
    cases hv with
    | string ps =>
      rw [quoted_append]
      exact (reads_pass 0x22 _).settles_bind (settles_readString ps rest)
  · rename_i hquote
    have hnone : v.text? = none := by
      cases v with
      | string s => exact absurd hb hquote
      | null | boolean b | number n | list vs | object ms => rfl
    rw [hnone]
    exact (ensures_misfit expected).settles _ _

theorem takes_readText : Takes readText Source.text? := takes_readStringAs _

theorem takes_readInstant : Takes readInstant Source.instant? := by
  intro v bs hv front rest hfront hrest
  refine (takes_readStringAs _ hv hfront hrest).bind fun s _ => ?_
  cases Calendar.Instant.ofText s with
  | ok i => exact Reads.pure i rest
  | error f => exact ⟨_, rfl, trivial⟩

theorem settles_readNumber {n : Numeral} (h : n.WellFormed) (capital plus : Bool)
    (hrest : EndsNumeral rest) :
    Settles readNumber (n.spelling capital plus ++ rest) n.value.toOption rest := by
  refine (reads_readNumeral h hrest capital plus).settles_bind ?_
  cases n.value with
  | ok v => exact Reads.pure v rest
  | error back => exact ⟨_, rfl, trivial⟩

theorem takes_readNumberAs (expected : String) :
    Takes (readNumberAs expected) Source.number? := by
  intro v bs hv front rest hfront hrest
  refine settles_firstByte hv hfront fun b hb => ?_
  split
  · rename_i hdigit
    obtain ⟨n, rfl⟩ := hb.exists_number hdigit
    cases hv with
    | number h capital plus => exact settles_readNumber h capital plus hrest
  · rename_i hdigit
    have hnone : v.number? = none := by
      cases v with
      | number n => exact absurd hb hdigit
      | null | boolean b | string s | list vs | object ms => rfl
    rw [hnone]
    exact (ensures_misfit expected).settles _ _

theorem takes_readFloat : Takes readFloat Source.double? := (takes_readNumberAs _).map _

/-! ## Documents -/

/-- A document is decoded as what its value is in the sense of the reader. -/
theorem Takes.decode_iff {r : Reader α} {sense : Source → Option α} (h : Takes r sense)
    (hv : Spells v bs) {back : List UInt8} (hfront : AllBlank front) (hback : AllBlank back)
    {a : α} : decode r (front ++ (bs ++ back)) = .ok a ↔ sense v = some a := by
  refine decode_eq_ok_iff_of_settles (h hv hfront ?_) hback
  have hend : EndsNumeral back := by
    have hnil : EndsNumeral [] := fun _ hb => nomatch hb
    simpa using endsNumeral_append hback hnil
  exact hend.ends v

/-- A text that is a value with blanks around it. -/
def IsDocument (v : Source) (text : List UInt8) : Prop :=
  ∃ front bs back, AllBlank front ∧ Spells v bs ∧ AllBlank back ∧ text = front ++ (bs ++ back)

theorem Spells.isDocument (h : Spells v bs) : IsDocument v bs :=
  ⟨[], bs, [], .nil, h, .nil, (List.append_nil bs).symm⟩

/-- The value has texts, and each of them is decoded. -/
def Source.DecodesTo (r : Reader α) (v : Source) (a : α) : Prop :=
  (∃ bs, Spells v bs) ∧ ∀ bs, Spells v bs → decode r bs = .ok a

/-- A value with a text is decoded as what it is in the sense of the reader. -/
theorem Takes.decodesTo_iff {r : Reader α} {sense : Source → Option α} (h : Takes r sense)
    (hv : Spells v bs) {a : α} : v.DecodesTo r a ↔ sense v = some a := by
  have hdecode : ∀ {cs}, Spells v cs → (decode r cs = .ok a ↔ sense v = some a) := by
    intro cs hcs
    have hboth := h.decode_iff hcs .nil .nil (a := a)
    rwa [List.nil_append, List.append_nil] at hboth
  constructor
  · exact fun hall => (hdecode hv).mp (hall.2 bs hv)
  · exact fun hsense => ⟨⟨bs, hv⟩, fun cs hcs => (hdecode hcs).mpr hsense⟩

end StarSurvey.Json
