import StarSurvey.Json.Shape
import StarSurvey.Proofs.Json.Numeral

/-!
# What decoding by shape can give

- **Misfits** (`ensures_misfit`): a reader that reports a misfit gives nothing.
- **Coordinates** (`ensures_readFloat`): a number that is read as a double is finite.
- **Shapes** (`Shape.ensures_read`): if every field keeps an invariant of the parts, and parts with
  the invariant make up a value with a property, then only values with the property are given.
- **Documents** (`of_decode`).
-/

namespace StarSurvey.Json

variable {α σ : Type} {P : α → Prop}

theorem ensures_fail (c : Cause) : Ensures (fail c : Reader α) P := .of_error

theorem ensures_failPast (c : Cause) : Ensures (failPast c : Reader α) P := .of_error

theorem ensures_misfit (expected : String) : Ensures (misfit expected : Reader α) P := by
  refine .bind_of_forall fun b => ?_
  cases b with
  | none => exact ensures_failPast _
  | some b =>
    dsimp only
    split_ifs
    · exact .bind_of_forall fun _ => .bind_of_forall fun _ => ensures_fail _
    · exact .bind_of_forall fun _ => .bind_of_forall fun _ => ensures_fail _
    · exact .bind_of_forall fun _ => .bind_of_forall fun _ => ensures_fail _
    · exact .bind_of_forall fun _ => ensures_fail _
    · exact .bind_of_forall fun _ => .bind_of_forall fun _ => ensures_fail _
    · exact ensures_fail _
    · exact ensures_fail _
    · exact ensures_failPast _

/-- A number that is read as a double is finite. -/
theorem ensures_readFloat : Ensures readFloat fun x => x.isFinite = true := by
  refine .map (.bind_of_forall fun b => ?_)
  split
  · exact ensures_readNumber
  · exact ensures_misfit _

namespace Shape

variable {I : σ → Prop}

theorem ensures_repeated (name : String) : Ensures (repeated name : Reader σ) I := by
  refine .bind_of_forall fun _ => .bind_of_forall fun b => ?_
  split
  · exact .bind_of_forall fun _ => ensures_fail _
  · exact ensures_fail _

/-- Members keep an invariant that every field keeps. -/
theorem ensures_readMembers {fields : List (Field σ)}
    (hfields : ∀ f ∈ fields, ∀ p, I p → Ensures (f.read p) I) (fuel : ℕ) (first : Bool) {p : σ}
    (hp : I p) : Ensures (readMembers fields fuel first p) I := by
  induction fuel generalizing first p with
  | zero => exact ensures_failPast _
  | succ fuel ih =>
    refine .bind_of_forall fun more => ?_
    split
    · refine .bind_of_forall fun key => ?_
      split
      · rename_i f hf
        split
        · exact ensures_repeated _
        · refine .bind_of_forall fun _ => ?_
          exact (hfields f (List.mem_of_find?_eq_some hf) p hp).bind fun q hq => ih false hq
      · exact .bind_of_forall fun _ => .bind_of_forall fun _ => ih false hp
    · exact .pure hp

theorem ensures_readRow {fields : List (Field σ)}
    (hfields : ∀ f ∈ fields, ∀ p, I p → Ensures (f.read p) I) (expected : String) (taken : ℕ)
    {p : σ} (hp : I p) : Ensures (readRow expected fields taken p) I := by
  induction fields generalizing taken p with
  | nil => exact .pure hp
  | cons f fs ih =>
    refine .bind_of_forall fun more => ?_
    split
    · refine (hfields f List.mem_cons_self p hp).bind fun q hq => ?_
      exact ih (fun g hg => hfields g (List.mem_cons_of_mem f hg)) _ hq
    · exact .bind_of_forall fun _ => ensures_fail _

/-- A shape gives only values that are made up of parts with the invariant. -/
theorem ensures_read {shape : Shape σ α} (hnone : I shape.none)
    (hfields : ∀ f ∈ shape.fields, ∀ p, I p → Ensures (f.read p) I)
    (hwhole : ∀ p a, I p → shape.whole p = some a → P a) : Ensures shape.read P := by
  have hfinish : ∀ p, I p → Ensures (shape.finish p) P := by
    intro p hp
    unfold finish
    split
    · rename_i a ha
      exact .pure (hwhole p a hp ha)
    · exact ensures_fail _
  refine .bind_of_forall fun b => ?_
  split
  · refine .bind_of_forall fun _ => .bind_of_forall fun bs => ?_
    refine (ensures_readMembers hfields _ true hnone).bind fun p hp => ?_
    exact .bind_of_forall fun _ => hfinish p hp
  · split
    · refine .bind_of_forall fun _ => ?_
      refine (ensures_readRow hfields _ 0 hnone).bind fun p hp => ?_
      exact .bind_of_forall fun _ => hfinish p hp
    · exact ensures_misfit _

end Shape

/-- What a document is decoded as has the property. -/
theorem of_decode {r : Reader α} {text : List UInt8} {a : α} (h : Ensures r P)
    (hdecode : decode r text = .ok a) : P a := by
  obtain ⟨rest, hread⟩ := decode_eq_ok_iff.mp hdecode
  have hall : Ensures (document r) P := by
    refine h.bind fun a ha => .bind_of_forall fun _ => .bind_of_forall fun b => ?_
    split
    · exact ensures_failPast _
    · exact .pure ha
  exact hall text a rest hread

end StarSurvey.Json
