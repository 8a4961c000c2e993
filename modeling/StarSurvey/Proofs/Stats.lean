import Mathlib.Data.List.Induction
import Mathlib.Data.List.Perm.Basic
import StarSurvey.Stats

/-!
# Statistics do not depend on the order of the records

- **Counting** (`lookup_tally`): the tally of some records says of each class that occurs how many
  records have it, and nothing of the others.
- **Order** (`shares_perm`): so a rearrangement of the records has the same shares.
-/

namespace StarSurvey.Stats

/-- How many records are of a class. -/
def occurrences (records : List Record) (c : StarClass) : Nat :=
  records.countP fun r => r.starType.starClass = c

/-- One more of a class changes what is said of that class only. -/
theorem lookup_bump (c d : StarClass) (counts : List (StarClass × Nat)) :
    (tally.bump c counts).lookup d =
      if d = c then some ((counts.lookup c).getD 0 + 1) else counts.lookup d := by
  induction counts with
  | nil =>
    by_cases hd : d = c
    · simp [tally.bump, hd]
    · simp [tally.bump, hd, List.lookup_cons, beq_false_of_ne hd]
  | cons entry rest ih =>
    obtain ⟨e, n⟩ := entry
    by_cases hce : c = e
    · subst hce
      by_cases hd : d = c
      · simp [tally.bump, hd]
      · simp [tally.bump, hd, List.lookup_cons, beq_false_of_ne hd]
    · rw [tally.bump, if_neg hce, List.lookup_cons, ih, List.lookup_cons, List.lookup_cons,
        beq_false_of_ne hce]
      by_cases hde : d = e
      · subst hde
        simp [Ne.symm hce]
      · simp [beq_false_of_ne hde]

/-- The tally has an entry for each class that occurs. -/
theorem lookup_tally (records : List Record) (c : StarClass) :
    (tally records).lookup c =
      if occurrences records c = 0 then none else some (occurrences records c) := by
  induction records using List.reverseRecOn with
  | nil => rfl
  | append_singleton records r ih =>
    have hstep : tally (records ++ [r]) = tally.bump r.starType.starClass (tally records) := by
      rw [tally, List.foldl_append]
      rfl
    have hcount : occurrences (records ++ [r]) c =
        occurrences records c + if r.starType.starClass = c then 1 else 0 := by
      simp [occurrences, List.countP_cons]
    rw [hstep, lookup_bump, hcount]
    by_cases hc : c = r.starType.starClass
    · subst hc
      rw [if_pos rfl, if_pos rfl, if_neg (Nat.succ_ne_zero _), ih]
      split
      · rename_i h0
        rw [h0]
        rfl
      · rfl
    · rw [if_neg hc, if_neg (Ne.symm hc), ih, Nat.add_zero]

variable {records others : List Record}

/-- The shares of a rearrangement are the same. -/
theorem shares_perm (h : records.Perm others) : shares records = shares others := by
  have hcount : ∀ c, occurrences records c = occurrences others c := fun c => h.countP_eq _
  simp only [shares, lookup_tally, hcount, h.length_eq]

/-- There is a mean distance of a rearrangement if there is one. -/
theorem isSome_meanDistance?_perm (h : records.Perm others) :
    (meanDistance? records).isSome = (meanDistance? others).isSome := by
  simp only [meanDistance?, h.length_eq]
  split <;> rfl

end StarSurvey.Stats
