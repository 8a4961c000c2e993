import StarSurvey.Proofs.Toml.FramedTokens

/-!
# The readers of strings and keys are framed

- **Strings** (`framed_string`): a string ends with its quotes, over however many lines it goes.
- **Keys** (`framed_key`).
-/

namespace StarSurvey.Toml

/-! ## Strings -/

theorem decided_escape : Decided escape := by
  refine .next_bind (fun c => ?_) fun c hc => ?_
  · split
    any_goals exact .pure _
    · exact decided_codePoint 4
    · exact decided_codePoint 8
    · exact .failure
  · obtain rfl | rfl | rfl := isStop_iff.mp hc <;> rfl

theorem shrinks_basicString (fuel : Nat) : Shrinks (basicString fuel) := by
  induction fuel with
  | zero => exact .failure
  | succ fuel ih =>
    unfold basicString
    refine Shrinks.next.bind fun c => ?_
    split_ifs
    · exact .pure _
    · exact decided_escape.shrinks.bind fun _ => ih.bind fun _ => .pure _
    · exact ih.bind fun _ => .pure _
    · exact .failure

theorem framedTo_basicString {n fuel fuel' : Nat} (h : n ≤ fuel) (h' : n ≤ fuel') :
    FramedTo n 0 (basicString fuel) (basicString fuel') := by
  refine .of_fuel shrinks_basicString (fun ih => ?_) h h'
  unfold basicString
  refine FramedTo.next.bind_of_eats .next fun c => ?_
  split_ifs
  · exact (Decided.pure _).framedTo _ _
  · exact (decided_escape.framedTo _ _).bind fun e => ih.map (e :: ·)
  · exact ih.map (c :: ·)
  · exact .failure

theorem shrinks_literalString (fuel : Nat) : Shrinks (literalString fuel) := by
  induction fuel with
  | zero => exact .failure
  | succ fuel ih =>
    unfold literalString
    refine Shrinks.next.bind fun c => ?_
    split_ifs
    · exact .pure _
    · exact ih.bind fun _ => .pure _
    · exact .failure

theorem framedTo_literalString {n fuel fuel' : Nat} (h : n ≤ fuel) (h' : n ≤ fuel') :
    FramedTo n 0 (literalString fuel) (literalString fuel') := by
  refine .of_fuel shrinks_literalString (fun ih => ?_) h h'
  unfold literalString
  refine FramedTo.next.bind_of_eats .next fun c => ?_
  split_ifs
  · exact (Decided.pure _).framedTo _ _
  · exact ih.map (c :: ·)
  · exact .failure

theorem decided_extraQuotes {quote : Char} (h : isStop quote = false) :
    Decided (extraQuotes quote) := by
  refine (Decided.accept (by simp [isMark, h])).bind fun two => ?_
  split_ifs
  · exact .pure _
  · refine (Decided.accept (by simp [isMark, h])).bind fun one => ?_
    split_ifs
    · exact .pure _
    · exact .pure _

theorem shrinks_hiddenBreaks (fuel : Nat) : Shrinks (hiddenBreaks fuel) := by
  induction fuel with
  | zero => exact .pure _
  | succ fuel ih =>
    unfold hiddenBreaks
    refine decided_blanks.shrinks.bind fun _ => Shrinks.peek.bind fun o => ?_
    split
    · exact shrinks_newLine.bind fun _ => ih
    · exact (shrinks_newLine.bind fun _ => ih).oneOf (.pure _)
    · exact .pure _

theorem isSome_hiddenBreaks (fuel : Nat) (cs : List Char) : (hiddenBreaks fuel cs).isSome := by
  induction fuel generalizing cs with
  | zero => rfl
  | succ fuel ih =>
    unfold hiddenBreaks
    rw [bind_eq, blanks_eq, Option.bind_some, peek_bind_eq]
    generalize cs.dropWhile isBlank = rest
    generalize ho : rest.head? = o
    split
    · obtain ⟨rest', rfl⟩ := List.head?_eq_some_iff.mp ho
      rw [bind_eq, newLine_eq_some_iff (u := ()).mpr (.inl rfl)]
      exact ih rest'
    · unfold oneOf
      cases (do newLine; hiddenBreaks fuel : Reader Unit) rest <;> rfl
    · rfl

/-- Whether hidden line breaks begin here is seen from two characters. -/
theorem hiddenBreaks_eq_none {fuel fuel' : Nat} {cs t t' : List Char} (hcs : 2 ≤ cs.length)
    (h : (do newLine; hiddenBreaks fuel) (cs ++ t) = none) :
    (do newLine; hiddenBreaks fuel') (cs ++ t') = none := by
  obtain ⟨c, d, cs, rfl⟩ : ∃ c d cs', cs = c :: d :: cs' := by
    match cs, hcs with
    | c :: d :: cs, _ => exact ⟨c, d, cs, rfl⟩
  have hline : newLine (c :: d :: cs ++ t') = none := by
    refine Option.eq_none_iff_forall_ne_some.mpr fun ⟨u, l⟩ hl => ?_
    have hsome : ∃ l', newLine (c :: d :: cs ++ t) = some ((), l') := by
      obtain hbreak | hbreak := newLine_eq_some_iff.mp hl
      · obtain ⟨rfl, -⟩ := List.cons.inj hbreak
        exact ⟨_, newLine_eq_some_iff.mpr (.inl rfl)⟩
      · obtain ⟨rfl, hsecond⟩ := List.cons.inj hbreak
        obtain ⟨rfl, -⟩ := List.cons.inj hsecond
        exact ⟨_, newLine_eq_some_iff.mpr (.inr rfl)⟩
    obtain ⟨l', hl'⟩ := hsome
    rw [bind_eq, hl'] at h
    have hbreaks := isSome_hiddenBreaks fuel l'
    rw [show hiddenBreaks fuel l' = none from h] at hbreaks
    cases hbreaks
  rw [bind_eq, hline]
  rfl

/-- Which line breaks are hidden hangs on a character behind the next one. -/
theorem framedTo_hiddenBreaks {n fuel fuel' : Nat} (h : n ≤ fuel) (h' : n ≤ fuel') :
    FramedTo n 2 (hiddenBreaks fuel) (hiddenBreaks fuel') := by
  refine .of_fuel shrinks_hiddenBreaks (fun {n fuel fuel'} ih => ?_) h h'
  have hline : FramedTo n 2 (do newLine; hiddenBreaks fuel) (do newLine; hiddenBreaks fuel') :=
    ((framed_newLine n).mono (Nat.le_refl n) (Nat.zero_le 2)).bind_of_eats eats_newLine fun _ => ih
  unfold hiddenBreaks
  refine (decided_blanks.framedTo n 2).bind fun _ =>
    .peek_bind_of_pos Nat.two_pos (.pure _) fun c => ?_
  split
  · exact hline
  · exact hline.oneOf ((Decided.pure ()).framedTo n 2)
      fun _ _ _ hcs _ _ => hiddenBreaks_eq_none hcs
  · exact (Decided.pure ()).framedTo n 2

theorem framedTo_firstBreak (n : Nat) : FramedTo n 1 firstBreak firstBreak := by
  have hline := (framed_newLine n).mono (Nat.le_refl n) (Nat.zero_le 1)
  refine .peek_bind_of_pos Nat.one_pos (.pure _) fun c => ?_
  split
  · exact hline
  · exact hline
  · exact (Decided.pure ()).framedTo n 1

theorem shrinks_longBasicString (fuel : Nat) : Shrinks (longBasicString fuel) := by
  induction fuel with
  | zero => exact .failure
  | succ fuel ih =>
    unfold longBasicString
    refine (Shrinks.accept _).bind fun closed => ?_
    split_ifs
    · exact (decided_extraQuotes rfl).shrinks
    refine Shrinks.next.bind fun c => ?_
    have hbreaks : Shrinks (do
        blanks
        newLine
        hiddenBreaks ((← get).length + 1)
        longBasicString fuel) :=
      decided_blanks.shrinks.bind fun _ => shrinks_newLine.bind fun _ =>
        Shrinks.get.bind fun _ => (shrinks_hiddenBreaks _).bind fun _ => ih
    split_ifs
    · refine Shrinks.peek.bind fun o => ?_
      split
      any_goals exact hbreaks
      exact decided_escape.shrinks.bind fun _ => ih.bind fun _ => .pure _
    · exact ih.bind fun _ => .pure _
    · exact (Shrinks.exactly _).bind fun _ => ih.bind fun _ => .pure _
    · exact ih.bind fun _ => .pure _
    · exact .failure

/-- Hidden breaks take something on top of what the string behind them takes. -/
theorem eats_breaks {fuel : Nat} (h : Eats 3 (longBasicString fuel)) :
    Eats 3 (do blanks; newLine; hiddenBreaks ((← get).length + 1); longBasicString fuel) :=
  .bind_right decided_blanks.shrinks fun _ => .bind_right shrinks_newLine fun _ =>
    .bind_right .get fun _ => .bind_right (shrinks_hiddenBreaks _) fun _ => h

/-- A string in triple quotes takes at least the closing ones. -/
theorem eats_longBasicString (fuel : Nat) : Eats 3 (longBasicString fuel) := by
  induction fuel with
  | zero => exact .failure
  | succ fuel ih =>
    unfold longBasicString
    refine .accept_bind (Nat.le_refl 3) (decided_extraQuotes rfl).shrinks
      (.bind_right .next fun c => ?_)
    have hcons (c : Char) : Eats 3 (do return c :: (← longBasicString fuel)) :=
      ih.bind_left fun _ => .pure _
    split_ifs
    · refine .bind_right .peek fun o => ?_
      split
      any_goals exact eats_breaks ih
      exact .bind_right decided_escape.shrinks hcons
    · exact hcons '\n'
    · exact .bind_right (.exactly _) fun _ => hcons '\n'
    · exact hcons c
    · exact .failure

theorem framedTo_longBasicString {n fuel fuel' : Nat} (h : n ≤ fuel) (h' : n ≤ fuel') :
    FramedTo n 0 (longBasicString fuel) (longBasicString fuel') := by
  refine .of_fuel shrinks_longBasicString (fun {n fuel fuel'} ih => ?_) h h'
  have hhidden (m : Nat) : FramedTo m 2 (do hiddenBreaks ((← get).length + 1))
      (do hiddenBreaks ((← get).length + 1)) :=
    .get_bind fun cs t t' => framedTo_hiddenBreaks (by simp) (by simp)
  have hbreaks : FramedTo (n - 1) 0
      (do blanks; newLine; hiddenBreaks ((← get).length + 1); longBasicString fuel)
      (do blanks; newLine; hiddenBreaks ((← get).length + 1); longBasicString fuel') := by
    refine (decided_blanks.framedTo _ 0).bind fun _ => (framed_newLine _).bind fun _ =>
      (hhidden _).bind_of_short (fun _ => ih) fun _ b m l t ht hm _ hb => ?_
    have := eats_longBasicString fuel hb
    simp only [List.length_append] at this
    omega
  have hcons (c : Char) := ih.map (c :: ·)
  have hescape := (decided_escape.framedTo (n - 1) 0).bind hcons
  unfold longBasicString
  refine .accept_bind (by decide) ((decided_extraQuotes rfl).framedTo _ _)
    (FramedTo.next.bind_of_eats .next fun c => ?_)
  split_ifs
  · refine .peek_bind_of_short hescape.shrinks (fun c => ?_) fun t b l ht _ hb => ?_
    · split
      any_goals exact hbreaks
      exact hescape
    · -- what follows a backslash is taken
      have hlong (hb : (do
          blanks
          newLine
          hiddenBreaks ((← get).length + 1)
          longBasicString fuel) t = some (b, l ++ t)) : False := by
        have := eats_breaks (eats_longBasicString fuel) hb
        simp only [List.length_append] at this
        omega
      cases t with
      | nil => cases hb
      | cons d t =>
        obtain rfl | rfl | rfl := isStop_iff.mp ((stops_cons d t).mp ht)
        · cases hb
        · exact hlong hb
        · exact hlong hb
  · exact hcons '\n'
  · exact (FramedTo.exactly _).bind fun _ => hcons '\n'
  · exact hcons c
  · exact .failure

theorem shrinks_longLiteralString (fuel : Nat) : Shrinks (longLiteralString fuel) := by
  induction fuel with
  | zero => exact .failure
  | succ fuel ih =>
    unfold longLiteralString
    refine (Shrinks.accept _).bind fun closed => ?_
    split_ifs
    · exact (decided_extraQuotes rfl).shrinks
    refine Shrinks.next.bind fun c => ?_
    split_ifs
    · exact ih.bind fun _ => .pure _
    · exact (Shrinks.exactly _).bind fun _ => ih.bind fun _ => .pure _
    · exact ih.bind fun _ => .pure _
    · exact .failure

theorem framedTo_longLiteralString {n fuel fuel' : Nat} (h : n ≤ fuel) (h' : n ≤ fuel') :
    FramedTo n 0 (longLiteralString fuel) (longLiteralString fuel') := by
  refine .of_fuel shrinks_longLiteralString (fun ih => ?_) h h'
  unfold longLiteralString
  refine .accept_bind (by decide) ((decided_extraQuotes rfl).framedTo _ _)
    (FramedTo.next.bind_of_eats .next fun c => ?_)
  split_ifs
  · exact ih.map ('\n' :: ·)
  · exact (FramedTo.exactly _).bind fun _ => ih.map ('\n' :: ·)
  · exact ih.map (c :: ·)
  · exact .failure

/-- A string in triple quotes takes at least the closing ones. -/
theorem eats_longLiteralString (fuel : Nat) : Eats 3 (longLiteralString fuel) := by
  induction fuel with
  | zero => exact .failure
  | succ fuel ih =>
    have hcons (c : Char) : Eats 3 (do return c :: (← longLiteralString fuel)) :=
      ih.bind_left fun _ => .pure _
    unfold longLiteralString
    refine .accept_bind (Nat.le_refl 3) (decided_extraQuotes rfl).shrinks
      (.bind_right .next fun c => ?_)
    split_ifs
    · exact hcons '\n'
    · exact .bind_right (.exactly _) fun _ => hcons '\n'
    · exact hcons c
    · exact .failure

/-- A break behind the opening quotes may be passed, because more of the string is still to come. -/
theorem framedTo_firstBreak_bind {n : Nat} {r r' : Reader (List Char)} (h : FramedTo n 0 r r')
    (heats : Eats 3 r) : FramedTo n 0 (do firstBreak; r) (do firstBreak; r') := by
  refine (framedTo_firstBreak n).bind_of_short (fun _ => h) fun _ b m l t _ hm _ hb => ?_
  have := heats hb
  simp only [List.length_append] at this
  omega

theorem framed_stringChars : Framed stringChars := by
  intro n
  refine .get_bind fun cs t t' => ?_
  have hfuel (t : List Char) : cs.length + 1 ≤ (cs ++ t).length + 1 := by simp
  have hless (t : List Char) : cs.length + 1 - 1 ≤ (cs ++ t).length + 1 :=
    Nat.le_trans (Nat.sub_le _ _) (hfuel t)
  refine .accept_bind (by decide) ?_ (.accept_bind (by decide) ?_
    (.accept_bind (by decide) ?_ ?_))
  · exact framedTo_firstBreak_bind (framedTo_longBasicString (hless t) (hless t'))
      (eats_longBasicString _)
  · exact framedTo_basicString (hless t) (hless t')
  · exact framedTo_firstBreak_bind (framedTo_longLiteralString (hless t) (hless t'))
      (eats_longLiteralString _)
  · exact (FramedTo.exactly _).bind fun _ => framedTo_literalString (hfuel t) (hfuel t')

theorem framed_string : Framed string := framed_stringChars.map _

/-! ## Keys -/

/-- What stands at the end of a text or in front of a stop. -/
theorem eq_of_stops {o : Option Char} (h : ∀ c ∈ o, isStop c = true) :
    o = none ∨ o = some '#' ∨ o = some '\n' ∨ o = some '\r' := by
  cases o with
  | none => exact .inl rfl
  | some c => simpa using isStop_iff.mp (h c rfl)

theorem framed_keyPart : Framed keyPart := by
  have hbare : Decided (do
      let cs ← takeAll isBare
      if cs.isEmpty then failure else pure (String.ofList cs)) := by
    refine (Decided.takeAll (passes_iff.mpr (by decide))).bind fun cs => ?_
    split
    · exact .failure
    · exact .pure _
  have heats : Eats 1 (discard next) := Eats.next.bind_left fun _ => .pure _
  have hnext (n : Nat) : FramedTo n 0 (discard next) (discard next) := FramedTo.next.map _
  intro n
  refine .peek_bind (fun c => ?_) fun o o' ho ho' => ?_
  · split
    · refine .get_bind fun cs t t' => ?_
      exact (hnext _).bind_of_eats heats fun _ => (framedTo_basicString (by simp) (by simp)).map _
    · refine .get_bind fun cs t t' => ?_
      exact (hnext _).bind_of_eats heats fun _ => (framedTo_literalString (by simp) (by simp)).map _
    · exact hbare.framed n
  · obtain rfl | rfl | rfl | rfl := eq_of_stops ho <;>
      obtain rfl | rfl | rfl | rfl := eq_of_stops ho' <;> exact hbare.framed n

theorem shrinks_keyParts (fuel : Nat) : Shrinks (keyParts fuel) := by
  induction fuel with
  | zero => exact .failure
  | succ fuel ih =>
    unfold keyParts
    refine decided_blanks.shrinks.bind fun _ => (framed_keyPart 0).shrinks.bind fun part =>
      decided_blanks.shrinks.bind fun _ => (Shrinks.accept _).bind fun more => ?_
    split_ifs
    · exact ih.bind fun _ => .pure _
    · exact .pure _

theorem framedTo_keyParts {n fuel fuel' : Nat} (h : n ≤ fuel) (h' : n ≤ fuel') :
    FramedTo n 0 (keyParts fuel) (keyParts fuel') := by
  refine .of_fuel shrinks_keyParts (fun {n fuel fuel'} ih => ?_) h h'
  unfold keyParts
  exact (decided_blanks.framed n).bind fun _ => (framed_keyPart n).bind fun part =>
    (decided_blanks.framed n).bind fun _ => .accept_bind (by decide) (ih.map (part :: ·))
      ((Decided.pure _).framed n)

theorem framed_key : Framed key := by
  intro n
  refine .get_bind fun cs t t' => (framedTo_keyParts (by simp) (by simp)).bind fun parts => ?_
  split
  · split_ifs
    · exact (Decided.pure _).framed _
    · exact .failure
  · exact .failure

end StarSurvey.Toml
