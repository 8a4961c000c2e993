import StarSurvey.Proofs.Json.Shape

/-!
# Values that are refused by shape

- **Text** (`RefusesText`): a reader refuses a text for a cause, whatever stands around it.
- **Scalars** (`refusesText_readFloat`): what is not finite is written as `null`, and no number.
- **Objects** (`Shape.refusesText_read`): an object is refused if one of its members is, behind members
  that are read (`Shape.MembersRefused`).
- **Documents** (`decode_compact_of_refuses`).
-/

namespace StarSurvey.Json

open StarSurvey.Text (encode)

variable {α β σ : Type} {c : Cause} {l : Spacing} {depth : ℕ}

/-- A reader refuses a text for a cause. -/
def RefusesText (r : Reader α) (cs : List Char) (c : Cause) : Prop :=
  ∀ bl rest, AllBlank bl → Fails r (bl ++ (encode cs ++ rest)) fun f => f.cause = c

theorem RefusesText.map {r : Reader α} {cs : List Char} (f : α → β) (h : RefusesText r cs c) :
    RefusesText (f <$> r) cs c :=
  fun bl rest hbl => (h bl rest hbl).map f

/-! ## Scalars -/

theorem refusesText_readNumberAs_null (expected : String) :
    RefusesText (readNumberAs expected) "null".toList
      (.misfit (.wrongType .nothing expected)) := by
  intro bl rest hbl
  refine .bind_of_reads (reads_firstByte hbl (b := 0x6E) rfl _) ?_
  rw [if_neg (by decide)]
  exact ⟨_, rfl, rfl⟩

/-- A coordinate that is not finite is refused. -/
theorem refusesText_readFloat {x : Float} (hx : x.isFinite = false) :
    RefusesText readFloat (Number.float x).chars (.misfit (.wrongType .nothing "f64")) := by
  rw [Number.chars, hx, if_neg Bool.false_ne_true]
  exact (refusesText_readNumberAs_null "f64").map Number.toFloat

namespace Shape

/-- Members are read one after the other up to one that is refused. -/
inductive MembersRefused (fields : List (Field σ)) (l : Spacing) (depth : ℕ) (c : Cause) :
    σ → List (String × Value) → Prop where
  | here {p : σ} {k : String} {v : Value} {ms : List (String × Value)} {f : Field σ}
      (found : fields.find? (fun f => f.name == k) = some f) (unset : f.isSet p = false)
      (value : RefusesText (f.read p) (v.charsIn l depth) c) :
      MembersRefused fields l depth c p ((k, v) :: ms)
  | there {p q : σ} {k : String} {v : Value} {ms : List (String × Value)} {f : Field σ}
      (found : fields.find? (fun f => f.name == k) = some f) (unset : f.isSet p = false)
      (value : ReadsText (f.read p) (v.charsIn l depth) q)
      (more : MembersRefused fields l depth c q ms) :
      MembersRefused fields l depth c p ((k, v) :: ms)

theorem fails_readMembers {fields : List (Field σ)} {p : σ} {ms : List (String × Value)}
    (h : MembersRefused fields l depth c p ms) (rest : List UInt8) (first : Bool) (fuel : ℕ)
    (hfuel : ms.length < fuel) :
    Fails (readMembers fields fuel first p) (encode (membersIn l depth first ms) ++ rest)
      fun f => f.cause = c := by
  induction h generalizing first fuel with
  | @here p k v ms f hfound hunset hvalue =>
    obtain ⟨n, rfl⟩ := Nat.exists_eq_add_of_le' (Nat.lt_of_le_of_lt (Nat.zero_le _) hfuel)
    rw [Fails, readMembers_eq hfound hunset]
    exact (hvalue _ _ l.allBlank_gap).bind
  | @there p q k v ms f hfound hunset hvalue hmore ih =>
    obtain ⟨n, rfl⟩ := Nat.exists_eq_add_of_le' (Nat.lt_of_le_of_lt (Nat.zero_le _) hfuel)
    have hend : EndsNumeral (encode (membersIn l depth false ms) ++ rest) := by
      cases hmore <;> exact endsNumeral_comma _ _
    rw [Fails, readMembers_eq hfound hunset]
    refine Fails.bind_of_reads (hvalue.reads _ _ l.allBlank_gap hend) (ih false n ?_)
    rw [List.length_cons] at hfuel
    omega

/-- An object is refused if one of its members is. -/
theorem refusesText_read {shape : Shape σ α} {ms : List (String × Value)}
    (h : MembersRefused shape.fields l (depth + 1) c shape.none ms) :
    RefusesText shape.read ((Value.object ms).charsIn l depth) c := by
  intro bl rest hbl
  obtain ⟨fuel, hfuel, hread⟩ := exists_read_eq shape l depth ms hbl rest
  rw [Fails, hread]
  exact (fails_readMembers h _ true fuel hfuel).bind

end Shape

/-! ## Documents -/

/-- A document is refused for the cause for which its value is. -/
theorem decode_compact_of_refuses {r : Reader α} {v : Value}
    (h : RefusesText r (v.charsIn .compact 0) c) :
    ∃ e, decode r (Text.bytes v.compact) = .error e ∧ e.cause = c := by
  have hfails := h [] [] .nil
  rw [List.nil_append, List.append_nil] at hfails
  rw [Value.compact, Text.bytes_ofList, Value.compactChars_eq v 0]
  exact exists_decode_eq_error hfails

end StarSurvey.Json
