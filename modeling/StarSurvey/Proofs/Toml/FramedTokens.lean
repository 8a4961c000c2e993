import Mathlib.Data.List.Induction
import Mathlib.Data.Option.Basic
import StarSurvey.Proofs.Toml.Framing

/-!
# The readers of gaps and numbers are framed

- **Gaps** (`framedTo_gap`): what stands between the elements of a list ends in front of something else.
- **Numbers and times** (`decided_number`): they take no stop and see no further.
-/

namespace StarSurvey.Toml

/-! ## Classes of characters -/

theorem isStop_iff {c : Char} : isStop c = true ↔ c = '#' ∨ c = '\n' ∨ c = '\r' := by
  simp [isStop, or_assoc]

theorem passes_iff {p : Char → Bool} :
    Passes p ↔ p '#' = false ∧ p '\n' = false ∧ p '\r' = false := by
  constructor
  · intro h
    exact ⟨h '#' rfl, h '\n' rfl, h '\r' rfl⟩
  · rintro ⟨hcomment, hbreak, hreturn⟩ c hc
    obtain rfl | rfl | rfl := isStop_iff.mp hc
    · exact hcomment
    · exact hbreak
    · exact hreturn

/-! ## Blanks, comments and ends of line -/

theorem decided_blanks : Decided blanks := .discard (.takeAll (passes_iff.mpr (by decide)))

@[simp] theorem blanks_eq (cs : List Char) : blanks cs = some ((), cs.dropWhile isBlank) := rfl

theorem newLine_eq_some_iff {cs l : List Char} {u : Unit} :
    newLine cs = some (u, l) ↔ cs = '\n' :: l ∨ cs = '\r' :: '\n' :: l := by
  have hn : ('\n' == '\r') = false := by decide
  rcases cs with _ | ⟨c, _ | ⟨d, cs⟩⟩
  · simp [newLine, bind_eq, accept, exactly]
  · by_cases hc : '\n' = c
    · subst hc
      simp [newLine, bind_eq, accept, pure_eq, List.isPrefixOf]
    · simp [newLine, bind_eq, accept, exactly, List.isPrefixOf, hc, Ne.symm hc]
  · by_cases hc : '\n' = c
    · subst hc
      simp [newLine, bind_eq, accept, pure_eq, List.isPrefixOf]
    · simp [newLine, bind_eq, accept, exactly, List.isPrefixOf, hc, Ne.symm hc]
      grind

theorem shrinks_newLine : Shrinks newLine := by
  intro cs u l h
  obtain rfl | rfl := newLine_eq_some_iff.mp h
  · exact List.suffix_cons _ _
  · exact (List.suffix_cons _ _).trans (List.suffix_cons _ _)

theorem framed_newLine : Framed newLine := by
  refine fun n => ⟨shrinks_newLine, fun cs t t' u l _ _ _ _ h => ?_⟩
  have hcs : cs ++ t = ('\n' :: l) ++ t ∨ cs ++ t = ('\r' :: '\n' :: l) ++ t :=
    newLine_eq_some_iff.mp h
  rw [List.append_cancel_right_eq, List.append_cancel_right_eq] at hcs
  obtain rfl | rfl := hcs
  · exact newLine_eq_some_iff.mpr (.inl rfl)
  · exact newLine_eq_some_iff.mpr (.inr rfl)

theorem eats_newLine : Eats 1 newLine := by
  intro cs u l h
  obtain rfl | rfl := newLine_eq_some_iff.mp h <;> simp

@[simp] theorem comment_marked (cs : List Char) :
    comment ('#' :: cs) = some ((), cs.dropWhile isText) := rfl

theorem comment_of_ne {c : Char} (h : c ≠ '#') (cs : List Char) :
    comment (c :: cs) = some ((), c :: cs) := by
  simp [comment, bind_eq, accept, pure_eq, List.isPrefixOf, Ne.symm h]

theorem shrinks_comment : Shrinks comment := by
  refine .bind (.accept _) fun marked => ?_
  cases marked
  · exact .pure _
  · exact .discard (.takeAll _)

/-- A comment ends in its line; in front of a stop of its own it would go on. -/
theorem framedTo_comment (n : Nat) : FramedTo n 1 comment comment := by
  refine ⟨shrinks_comment, fun cs t t' u l _ hl ht ht' h => ?_⟩
  cases cs with
  | nil =>
    have hlen := (shrinks_comment h).length_le
    simp only [List.length_append, List.length_nil] at hlen
    omega
  | cons c cs =>
    rw [List.cons_append] at h ⊢
    by_cases hc : c = '#'
    · subst hc
      rw [comment_marked, Option.some.injEq, Prod.mk.injEq, List.dropWhile_append] at h
      rw [comment_marked, List.dropWhile_append]
      split at h
      · have hlen := (List.dropWhile_suffix (l := t) isText).length_le
        rw [h.2, List.length_append] at hlen
        omega
      · next hdrop => rw [if_neg hdrop, List.append_cancel_right h.2]
    · rw [comment_of_ne hc, Option.some.injEq, Prod.mk.injEq] at h
      have hl : c :: cs = l := List.append_cancel_right (by simpa using h.2)
      rw [comment_of_ne hc, ← hl]
      rfl

theorem shrinks_gaps (fuel : Nat) : Shrinks (gaps fuel) := by
  induction fuel with
  | zero => exact .pure _
  | succ fuel ih =>
    unfold gaps
    refine decided_blanks.shrinks.bind fun _ => Shrinks.peek.bind fun o => ?_
    split
    · exact shrinks_comment.bind fun _ => shrinks_newLine.bind fun _ => ih
    · exact shrinks_newLine.bind fun _ => ih
    · exact shrinks_newLine.bind fun _ => ih
    · exact .pure _

theorem framedTo_gaps {n fuel fuel' : Nat} (h : n ≤ fuel) (h' : n ≤ fuel') :
    FramedTo n 1 (gaps fuel) (gaps fuel') := by
  refine .of_fuel shrinks_gaps (fun {n fuel fuel'} ih => ?_) h h'
  have hline : FramedTo n 1 (do newLine; gaps fuel) (do newLine; gaps fuel') :=
    ((framed_newLine n).mono (Nat.le_refl n) (Nat.zero_le 1)).bind_of_eats eats_newLine fun _ => ih
  unfold gaps
  refine (decided_blanks.framedTo n 1).bind fun _ =>
    .peek_bind_of_pos Nat.one_pos (.pure _) fun c => ?_
  split
  · exact (framedTo_comment n).bind fun _ => hline
  · exact hline
  · exact hline
  · exact (Decided.pure ()).framedTo n 1

theorem shrinks_gap : Shrinks gap := Shrinks.get.bind fun _ => shrinks_gaps _

theorem framedTo_gap (n : Nat) : FramedTo n 1 gap gap :=
  .get_bind fun cs t t' => framedTo_gaps (by simp) (by simp)

/-! ## Numbers and times -/

theorem passes_isDigit : Passes Char.isDigit := passes_iff.mpr (by decide)

theorem exists_of_valueInBase?_concat {base v : Nat} {ds : List Char} {d : Char}
    (h : valueInBase? base (ds ++ [d]) = some v) :
    (∃ u, valueInBase? base ds = some u) ∧ isStop d = false := by
  rw [valueInBase?, List.foldl_append, ← valueInBase?] at h
  constructor
  · cases hds : valueInBase? base ds with
    | some u => exact ⟨u, rfl⟩
    | none => simp [hds] at h
  · rw [Bool.eq_false_iff]
    intro hstop
    obtain rfl | rfl | rfl := isStop_iff.mp hstop <;> cases h

/-- No digit of any base is a stop. -/
theorem isStop_of_valueInBase? {base v : Nat} {ds : List Char} (h : valueInBase? base ds = some v) :
    ∀ d ∈ ds, isStop d = false := by
  induction ds using List.reverseRecOn generalizing v with
  | nil => nofun
  | append_singleton ds d ih =>
    obtain ⟨⟨u, hu⟩, hd⟩ := exists_of_valueInBase?_concat h
    intro c hc
    rw [List.mem_append, List.mem_singleton] at hc
    obtain hc | rfl := hc
    · exact ih hu c hc
    · exact hd

/-- A reader of so many characters none of which is a stop. -/
theorem decided_of_width {α : Type} {r : Reader α} {w : Nat} {g : List Char → Option α}
    (hr : ∀ cs, r cs = (g (cs.take w)).map fun a => (a, cs.drop w))
    (hg : ∀ ds a, g ds = some a → ds.length = w ∧ ∀ d ∈ ds, isStop d = false) : Decided r where
  shrinks cs a l h := by
    rw [hr] at h
    obtain ⟨b, -, hx⟩ := Option.map_eq_some_iff.mp h
    cases hx
    exact List.drop_suffix w cs
  append cs t ht := by
    rw [hr, hr, Option.map_map]
    by_cases hw : w ≤ cs.length
    · rw [List.take_append_of_le_length hw, List.drop_append_of_le_length hw]
      rfl
    · have hshort : g (cs.take w) = none := by
        refine Option.eq_none_iff_forall_ne_some.mpr fun a ha => ?_
        have := (hg _ a ha).1
        simp at this
        omega
      have hlong : g ((cs ++ t).take w) = none := by
        refine Option.eq_none_iff_forall_ne_some.mpr fun a ha => ?_
        obtain ⟨hlen, hmem⟩ := hg _ a ha
        cases t with
        | nil =>
          simp at hlen
          omega
        | cons c t =>
          have hc : c ∈ (cs ++ c :: t).take w := by
            obtain ⟨d, hd⟩ := Nat.exists_eq_add_of_lt (Nat.lt_of_not_le hw)
            simp [List.take_append, hd, Nat.add_assoc]
          simp [hmem c hc] at ht
      rw [hshort, hlong]
      rfl

theorem decided_codePoint (digits : Nat) : Decided (codePoint digits) := by
  refine decided_of_width (w := digits) (g := fun ds => do
    guard (ds.length = digits)
    let n ← valueInBase? 16 ds
    guard n.isValidChar
    return Char.ofNat n) (fun cs => ?_) fun ds c h => ?_
  · have hlen : min digits cs.length = digits ↔ digits ≤ cs.length := by omega
    simp [codePoint, hlen, Option.map_bind]
  · obtain ⟨u, hguard, h⟩ := Option.bind_eq_some_iff.mp h
    obtain ⟨n, hn, -⟩ := Option.bind_eq_some_iff.mp h
    exact ⟨(Option.guard_eq_some' _).mp hguard, isStop_of_valueInBase? hn⟩

theorem decided_field (width low high : Nat) : Decided (field width low high) := by
  refine decided_of_width (w := width) (g := fun ds => do
    guard (ds.length = width && ds.all Char.isDigit)
    let n ← valueInBase? 10 ds
    guard (low ≤ n && n ≤ high)
    return n) (fun cs => ?_) fun ds n h => ?_
  · simp [field, Option.map_bind]
  · obtain ⟨u, hguard, h⟩ := Option.bind_eq_some_iff.mp h
    obtain ⟨n, hn, -⟩ := Option.bind_eq_some_iff.mp h
    have hds := (Option.guard_eq_some' _).mp hguard
    simp only [Bool.and_eq_true, decide_eq_true_eq] at hds
    exact ⟨hds.1, isStop_of_valueInBase? hn⟩

theorem decided_date : Decided date := by
  refine (decided_field 4 0 9999).bind fun y => (Decided.exactly (by decide)).bind fun _ =>
    (decided_field 2 1 12).bind fun m => (Decided.exactly (by decide)).bind fun _ =>
    (decided_field 2 1 31).bind fun d => ?_
  split
  · exact .pure _
  · exact .failure

theorem decided_timeOfDay : Decided timeOfDay := by
  refine (decided_field 2 0 23).discard.bind fun _ => (Decided.exactly (by decide)).bind fun _ =>
    (decided_field 2 0 59).discard.bind fun _ => (Decided.exactly (by decide)).bind fun _ =>
    (decided_field 2 0 60).discard.bind fun _ => (Decided.accept (by decide)).bind fun point => ?_
  split
  · refine (Decided.takeAll passes_isDigit).bind fun ds => ?_
    split
    · exact .failure
    · exact .pure _
  · exact .pure _

theorem decided_offset : Decided offset := by
  refine .next_bind (fun c => ?_) fun c hc => ?_
  · have hoffset : Decided (do discard (field 2 0 23); exactly [':']; discard (field 2 0 59)) :=
      (decided_field 2 0 23).discard.bind fun _ => (Decided.exactly (by decide)).bind fun _ =>
        (decided_field 2 0 59).discard
    split
    · exact .pure _
    · exact .pure _
    · exact hoffset
    · exact hoffset
    · exact .failure
  · obtain rfl | rfl | rfl := isStop_iff.mp hc <;> rfl

theorem decided_timeBehindDate : Decided timeBehindDate := by
  refine .next_bind (fun c => ?_) fun c hc => ?_
  · split
    · refine decided_timeOfDay.bind fun _ => .peek_bind (fun o => ?_) fun c hc => ?_
      · split
        · exact decided_offset
        · exact decided_offset
        · exact decided_offset
        · exact decided_offset
        · exact .pure _
      · obtain rfl | rfl | rfl := isStop_iff.mp hc <;> rfl
    · exact .failure
  · obtain rfl | rfl | rfl := isStop_iff.mp hc <;> rfl

theorem decided_time : Decided time :=
  ((decided_date.bind fun _ => decided_timeBehindDate.oneOf (.pure ())).oneOf decided_timeOfDay).bind
    fun _ => .pure _

theorem shrinks_digitGroups (p : Char → Bool) (fuel : Nat) : Shrinks (digitGroups p fuel) := by
  induction fuel with
  | zero => exact .failure
  | succ fuel ih =>
    unfold digitGroups
    refine (Shrinks.takeAll p).bind fun ds => ?_
    split
    · exact .failure
    · refine (Shrinks.accept _).bind fun more => ?_
      split
      · exact ih.bind fun _ => .pure _
      · exact .pure _

/-- Digits are taken as they are at the end of the text, whatever the fuel. -/
theorem digitGroups_append {p : Char → Bool} (hp : Passes p) {fuel fuel' : Nat} {cs t : List Char}
    (h : cs.length < fuel) (h' : cs.length < fuel') (ht : Stops t) :
    digitGroups p fuel' (cs ++ t) = (digitGroups p fuel cs).map fun x => (x.1, x.2 ++ t) := by
  induction fuel generalizing fuel' cs with
  | zero => cases h
  | succ fuel ih =>
    obtain ⟨fuel', rfl⟩ := Nat.exists_eq_add_of_lt h'
    unfold digitGroups
    rw [bind_eq, bind_eq, (Decided.takeAll hp).append cs t ht]
    simp only [takeAll, Option.map_some, Option.bind_some]
    split
    · rfl
    · rw [bind_eq, bind_eq, (Decided.accept (by decide)).append _ t ht]
      cases hmark : accept ['_'] (cs.dropWhile p) with
      | none => rfl
      | some x =>
        obtain ⟨more, rest⟩ := x
        cases more with
        | false => rfl
        | true =>
          have hrest := congrArg List.length (accept_eq_some_true_iff.mp hmark)
          have hlen := (List.dropWhile_suffix (l := cs) p).length_le
          simp at hrest
          have hih : digitGroups p (cs.length + fuel') (rest ++ t) =
              (digitGroups p fuel rest).map fun x => (x.1, x.2 ++ t) := ih (by omega) (by omega)
          simp only [Option.map_some, Option.bind_some, if_true, bind_eq, hih]
          cases digitGroups p fuel rest <;> rfl

theorem decided_digitGroups {p : Char → Bool} (hp : Passes p) :
    Decided (do digitGroups p ((← get).length + 1)) where
  shrinks := Shrinks.get.bind fun _ => shrinks_digitGroups p _
  append cs t ht :=
    digitGroups_append hp (Nat.lt_succ_self _) (by simp only [List.length_append]; omega) ht

theorem decided_sign : Decided sign := by
  refine (Decided.accept (by decide)).bind fun minus => ?_
  split
  · exact .pure _
  · exact (Decided.accept (by decide)).discard.bind fun _ => .pure _

theorem decided_wholeDigits : Decided wholeDigits := by
  refine (Decided.accept (by decide)).bind fun zero => ?_
  split
  · exact .pure _
  · exact decided_digitGroups passes_isDigit

theorem decided_basedInteger (base : Nat) : Decided (basedInteger base) := by
  have hdigit : Passes fun c => (valueInBase? base [c]).isSome := by
    intro c hc
    rw [Option.isSome_eq_false_iff, Option.isNone_iff_eq_none, Option.eq_none_iff_forall_ne_some]
    intro v hv
    simpa [hc] using isStop_of_valueInBase? hv c
  exact (decided_digitGroups hdigit).bind fun ds =>
    .lift (integerOf false ((valueInBase? base ds).getD 0))

theorem decided_integer : Decided integer := by
  refine (Decided.accept (by decide)).bind fun hex => ?_
  split
  · exact decided_basedInteger 16
  refine (Decided.accept (by decide)).bind fun octal => ?_
  split
  · exact decided_basedInteger 8
  refine (Decided.accept (by decide)).bind fun binary => ?_
  split
  · exact decided_basedInteger 2
  · exact decided_sign.bind fun _ => decided_wholeDigits.bind fun _ => .lift _

theorem decided_exponent : Decided exponent := by
  have hdigits : Decided digits := decided_digitGroups passes_isDigit
  have hshrinks : Shrinks exponent := by
    refine .bind .peek fun e => ?_
    split
    · exact Shrinks.next.discard.bind fun _ => decided_sign.shrinks.bind fun negative =>
        hdigits.shrinks.bind fun ds => .pure _
    · exact .pure _
  refine ⟨hshrinks, fun cs t ht => ?_⟩
  cases cs with
  | nil =>
    cases t with
    | nil => rfl
    | cons c t => obtain rfl | rfl | rfl := isStop_iff.mp ((stops_cons c t).mp ht) <;> rfl
  | cons c cs =>
    by_cases he : c = 'e' ∨ c = 'E'
    · have hnumber (negative : Bool) : Decided (do
          let n : Int := (valueInBase? 10 (← digits)).getD 0
          pure (some (if negative then -n else n))) := hdigits.bind fun ds => .pure _
      have heq (x : List Char) : exponent (c :: x) = (do
          let negative ← sign
          let n : Int := (valueInBase? 10 (← digits)).getD 0
          pure (some (if negative then -n else n)) : Reader (Option Int)) x := by
        simp [exponent, bind_eq, peek, next, discard_eq, he]
      rw [List.cons_append, heq, heq]
      exact (decided_sign.bind hnumber).append cs t ht
    · have heq (x : List Char) : exponent (c :: x) = some (none, c :: x) := by
        simp [exponent, bind_eq, peek, pure_eq, he]
      rw [List.cons_append, heq, heq]
      rfl

theorem decided_specialFloat : Decided specialFloat := by
  refine decided_sign.bind fun negative => (Decided.accept (by decide)).bind fun infinite => ?_
  cases infinite
  · exact (Decided.exactly (by decide)).bind fun _ => (Decided.pure (0 / 0)).bind fun x => .pure _
  · exact (Decided.pure (1 / 0)).bind fun x => .pure _

theorem decided_decimalFloat : Decided decimalFloat := by
  have hvalue (b : Bool) (x : Float) : Decided (if b then pure (.float (-x))
      else if x.isInf then failure else pure (.float x) : Reader Value) := by
    split
    · exact .pure _
    · split
      · exact .failure
      · exact .pure _
  refine decided_sign.bind fun negative => decided_wholeDigits.bind fun whole =>
    (Decided.accept (by decide)).bind fun point => ?_
  have hfraction (fraction : List Char) : Decided (do
      let e ← exponent
      if !point && e.isNone then failure
      let m := (valueInBase? 10 (whole ++ fraction)).getD 0
      let x := Decimal.nearest m (e.getD 0 - (fraction.length : Int))
      if negative then pure (.float (-x)) else if x.isInf then failure else pure (.float x) :
        Reader Value) := by
    refine decided_exponent.bind fun e => ?_
    by_cases h : (!point && e.isNone) = true
    · simp only [if_pos h]
      exact Decided.failure.bind fun _ => hvalue _ _
    · simp only [if_neg h]
      exact hvalue _ _
  cases point
  · exact (Decided.pure []).bind hfraction
  · exact (decided_digitGroups passes_isDigit).bind hfraction

theorem decided_number : Decided number :=
  decided_time.oneOf (decided_decimalFloat.oneOf (decided_specialFloat.oneOf decided_integer))

end StarSurvey.Toml
