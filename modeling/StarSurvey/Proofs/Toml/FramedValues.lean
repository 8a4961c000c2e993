import StarSurvey.Proofs.Toml.FramedStrings

/-!
# The readers of values are framed

A list may go over many lines and may hold comments, but it ends with its bracket, and a table with its
brace. What a value takes does not hang on what stands behind its line (`framed_value`).
-/

namespace StarSurvey.Toml

/-- The readers of values of every depth leave ends of the text. -/
theorem shrinks_values (fuel : Nat) : (∀ depth, Shrinks (value depth fuel)) ∧
    (∀ depth, Shrinks (elements depth fuel)) ∧ ∀ depth, Shrinks (assignments depth fuel) := by
  induction fuel with
  | zero =>
    refine ⟨fun depth => ?_, fun depth => ?_, fun depth => ?_⟩
    · cases depth <;> exact .failure
    · exact .failure
    · exact .failure
  | succ fuel ih =>
    obtain ⟨hvalue, helements, hassignments⟩ := ih
    refine ⟨fun depth => ?_, fun depth => ?_, fun depth => ?_⟩
    · cases depth with
      | zero => exact .failure
      | succ depth =>
        have hlist : Shrinks (do discard next; Value.list <$> elements depth fuel) :=
          Shrinks.next.discard.bind fun _ => (helements depth).map _
        have htable : Shrinks (do
            discard next
            blanks
            if ← accept ['\x7d'] then pure (.table .closed [])
            else
              let pairs ← assignments depth fuel
              tableInBraces pairs) := by
          refine Shrinks.next.discard.bind fun _ => decided_blanks.shrinks.bind fun _ =>
            (Shrinks.accept _).bind fun empty => ?_
          split_ifs
          · exact .pure _
          · exact (hassignments depth).bind fun pairs => .lift _
        unfold value
        refine Shrinks.peek.bind fun o => ?_
        split
        · exact (framed_string 0).shrinks.map _
        · exact (framed_string 0).shrinks.map _
        · exact (Shrinks.exactly _).bind fun _ => .pure _
        · exact (Shrinks.exactly _).bind fun _ => .pure _
        · by_cases hdepth : depth = 0
          · simp only [if_pos hdepth]
            exact Shrinks.failure.bind fun _ => hlist
          · simp only [if_neg hdepth]
            exact hlist
        · by_cases hdepth : depth = 0
          · simp only [if_pos hdepth]
            exact Shrinks.failure.bind fun _ => htable
          · simp only [if_neg hdepth]
            exact htable
        · exact decided_number.shrinks
    · unfold elements
      refine shrinks_gap.bind fun _ => (Shrinks.accept _).bind fun closed => ?_
      split_ifs
      · exact .pure _
      · refine (hvalue depth).bind fun v => shrinks_gap.bind fun _ =>
          (Shrinks.accept _).bind fun more => ?_
        split_ifs
        · exact (helements depth).bind fun _ => .pure _
        · exact (Shrinks.exactly _).bind fun _ => .pure _
    · unfold assignments
      refine (framed_key 0).shrinks.bind fun k => (Shrinks.exactly _).bind fun _ =>
        decided_blanks.shrinks.bind fun _ => (hvalue depth).bind fun v =>
          decided_blanks.shrinks.bind fun _ => (Shrinks.accept _).bind fun more => ?_
      split_ifs
      · exact (hassignments depth).bind fun _ => .pure _
      · exact (Shrinks.exactly _).bind fun _ => .pure _

/-- No value begins with a stop. -/
theorem value_stops {depth fuel : Nat} {t : List Char} (ht : Stops t) :
    value depth fuel t = none := by
  have hnumber : number t = none := by
    rw [← List.nil_append t, decided_number.append [] t ht]
    rfl
  cases depth with
  | zero =>
    rw [value]
    rfl
  | succ depth =>
    cases fuel with
    | zero => rfl
    | succ fuel =>
      unfold value
      rw [peek_bind_eq]
      obtain ho | ho | ho | ho := eq_of_stops ht <;> rw [ho] <;> exact hnumber

section Step

variable {n fuel fuel' depth : Nat}

theorem framedTo_value_succ (h : 2 * n ≤ fuel' + 1)
    (helements : ∀ n, 2 * n + 1 ≤ fuel' → FramedTo n 0 (elements depth fuel) (elements depth fuel'))
    (hassignments : ∀ n, 2 * n + 1 ≤ fuel' →
      FramedTo n 0 (assignments depth fuel) (assignments depth fuel')) :
    FramedTo n 0 (value (depth + 1) (fuel + 1)) (value (depth + 1) (fuel' + 1)) := by
  cases n with
  | zero => exact .zero ((shrinks_values _).1 _)
  | succ n =>
    have heats : Eats 1 (discard next) := Eats.next.bind_left fun _ => .pure _
    have hnext : FramedTo (n + 1) 0 (discard next) (discard next) := FramedTo.next.map _
    have hlist : FramedTo (n + 1) 0 (do discard next; Value.list <$> elements depth fuel)
        (do discard next; Value.list <$> elements depth fuel') :=
      hnext.bind_of_eats heats fun _ => (helements n (by omega)).map _
    have hpairs : FramedTo n 0
        (do let pairs ← assignments depth fuel; tableInBraces pairs)
        (do let pairs ← assignments depth fuel'; tableInBraces pairs) :=
      (hassignments n (by omega)).bind fun pairs => (Decided.lift _).framed n
    have htable : FramedTo (n + 1) 0
        (do
          discard next
          blanks
          if ← accept ['\x7d'] then pure (.table .closed [])
          else
            let pairs ← assignments depth fuel
            tableInBraces pairs)
        (do
          discard next
          blanks
          if ← accept ['\x7d'] then pure (.table .closed [])
          else
            let pairs ← assignments depth fuel'
            tableInBraces pairs) :=
      hnext.bind_of_eats heats fun _ => (decided_blanks.framed n).bind fun _ =>
        .accept_bind (by decide) ((Decided.pure _).framed _) hpairs
    have hnumber := decided_number.framed (n + 1)
    unfold value
    refine .peek_bind (fun c => ?_) fun o o' ho ho' => ?_
    · split
      · exact (framed_string _).map _
      · exact (framed_string _).map _
      · exact (FramedTo.exactly _).bind fun _ => (Decided.pure _).framed _
      · exact (FramedTo.exactly _).bind fun _ => (Decided.pure _).framed _
      · by_cases hdepth : depth = 0
        · simp only [if_pos hdepth]
          exact FramedTo.failure.bind fun _ => hlist
        · simp only [if_neg hdepth]
          exact hlist
      · by_cases hdepth : depth = 0
        · simp only [if_pos hdepth]
          exact FramedTo.failure.bind fun _ => htable
        · simp only [if_neg hdepth]
          exact htable
      · exact hnumber
    · obtain rfl | rfl | rfl | rfl := eq_of_stops ho <;>
        obtain rfl | rfl | rfl | rfl := eq_of_stops ho' <;> exact hnumber

theorem framedTo_elements_succ (hvalue : FramedTo n 0 (value depth fuel) (value depth fuel'))
    (helements : FramedTo (n - 1) 0 (elements depth fuel) (elements depth fuel')) :
    FramedTo n 0 (elements depth (fuel + 1)) (elements depth (fuel' + 1)) := by
  have hend (v : Value) : FramedTo n 0 (do exactly [']']; pure [v]) (do exactly [']']; pure [v]) :=
    (FramedTo.exactly _).bind fun _ => (Decided.pure _).framed n
  have hmore (v : Value) : FramedTo n 0
      (do
        gap
        if ← accept [','] then return v :: (← elements depth fuel)
        else do
          exactly [']']
          pure [v])
      (do
        gap
        if ← accept [','] then return v :: (← elements depth fuel')
        else do
          exactly [']']
          pure [v]) := by
    refine (framedTo_gap n).bind_of_short (fun _ => .accept_bind (by decide)
      (helements.map (v :: ·)) (hend v)) fun _ b m l t ht hm _ hb => ?_
    obtain rfl := List.eq_nil_of_length_eq_zero (Nat.lt_one_iff.mp hm)
    rw [List.nil_append, bind_eq, accept_stops (by decide) ht] at hb
    obtain ⟨u, l', hclose, -⟩ := bind_eq_some_iff.mp hb
    rw [exactly_stops (by decide) ht] at hclose
    cases hclose
  unfold elements
  refine (framedTo_gap n).bind_of_short (fun _ => .accept_bind (by decide)
    ((Decided.pure _).framed _) (hvalue.bind hmore)) fun _ b m l t ht hm _ hb => ?_
  obtain rfl := List.eq_nil_of_length_eq_zero (Nat.lt_one_iff.mp hm)
  rw [List.nil_append, bind_eq, accept_stops (by decide) ht] at hb
  obtain ⟨v, l', hvalue, -⟩ := bind_eq_some_iff.mp hb
  rw [value_stops ht] at hvalue
  cases hvalue

theorem framedTo_assignments_succ (hvalue : FramedTo n 0 (value depth fuel) (value depth fuel'))
    (hassignments : FramedTo (n - 1) 0 (assignments depth fuel) (assignments depth fuel')) :
    FramedTo n 0 (assignments depth (fuel + 1)) (assignments depth (fuel' + 1)) := by
  unfold assignments
  exact (framed_key n).bind fun k => (FramedTo.exactly _).bind fun _ =>
    (decided_blanks.framed n).bind fun _ => hvalue.bind fun v =>
      (decided_blanks.framed n).bind fun _ => .accept_bind (by decide) (hassignments.map ((k, v) :: ·))
        ((FramedTo.exactly _).bind fun _ => (Decided.pure _).framed n)

end Step

/-- Values, lists and tables in braces are framed if the fuel suffices for what they take. -/
theorem framedTo_values (fuel : Nat) : ∀ n fuel' depth,
    (2 * n ≤ fuel' → FramedTo n 0 (value depth fuel) (value depth fuel')) ∧
      (2 * n + 1 ≤ fuel' → FramedTo n 0 (elements depth fuel) (elements depth fuel')) ∧
        (2 * n + 1 ≤ fuel' → FramedTo n 0 (assignments depth fuel) (assignments depth fuel')) := by
  induction fuel with
  | zero =>
    refine fun n fuel' depth => ⟨fun _ => ?_, fun _ => .failure, fun _ => .failure⟩
    cases depth <;> exact .failure
  | succ fuel ih =>
    intro n fuel' depth
    refine ⟨fun h => ?_, fun h => ?_, fun h => ?_⟩
    · cases fuel' with
      | zero =>
        obtain rfl : n = 0 := by omega
        exact .zero ((shrinks_values _).1 depth)
      | succ fuel' =>
        cases depth with
        | zero =>
          rw [value, value]
          exact .failure
        | succ depth =>
          exact framedTo_value_succ h (fun n => (ih n fuel' depth).2.1) fun n => (ih n fuel' depth).2.2
    · cases n with
      | zero => exact .zero ((shrinks_values _).2.1 depth)
      | succ n =>
        obtain ⟨fuel', rfl⟩ := Nat.exists_eq_add_of_lt h
        exact framedTo_elements_succ ((ih _ _ depth).1 (by omega)) ((ih n _ depth).2.1 (by omega))
    · cases n with
      | zero => exact .zero ((shrinks_values _).2.2 depth)
      | succ n =>
        obtain ⟨fuel', rfl⟩ := Nat.exists_eq_add_of_lt h
        exact framedTo_assignments_succ ((ih _ _ depth).1 (by omega)) ((ih n _ depth).2.2 (by omega))

theorem framed_value (depth : Nat) : Framed (do value depth (2 * (← get).length + 2)) :=
  fun _ => .get_bind fun cs t t' => (framedTo_values _ _ _ depth).1 (by simp; omega)

end StarSurvey.Toml
