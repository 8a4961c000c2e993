/-!
# Splitting at a character

* `length_splitAt`: there is one part more than there are separators.
* `not_mem_of_mem_splitAt`: no part holds the separator.
* `mem_of_mem_splitAt`: the parts hold nothing that the text does not.
* `splitAt_append_sep`, `splitAt_of_not_mem`: a separator ends a part, and nothing else does.
-/

namespace StarSurvey.Text

/-- The parts between the separators, empty ones included. -/
def splitAt (sep : Char) : List Char → List (List Char)
  | [] => [[]]
  | c :: cs =>
    if c = sep then [] :: splitAt sep cs
    else match splitAt sep cs with
      | [] => [[c]]
      | part :: parts => (c :: part) :: parts

theorem length_splitAt (sep : Char) (cs : List Char) :
    (splitAt sep cs).length = cs.count sep + 1 := by
  induction cs with
  | nil => rfl
  | cons c cs ih =>
    by_cases h : c = sep
    · simp [splitAt, h, ih]
    · rw [splitAt, if_neg h, List.count_cons_of_ne h, ← ih]
      cases hs : splitAt sep cs with
      | nil => simp [hs] at ih
      | cons part parts => simp

theorem not_mem_of_mem_splitAt {sep : Char} {cs part : List Char} (h : part ∈ splitAt sep cs) :
    sep ∉ part := by
  induction cs generalizing part with
  | nil => simp_all [splitAt]
  | cons c cs ih =>
    by_cases hc : c = sep
    · simp only [splitAt, if_pos hc, List.mem_cons] at h
      rcases h with rfl | h
      · simp
      · exact ih h
    · rw [splitAt, if_neg hc] at h
      cases hs : splitAt sep cs with
      | nil => simp only [hs, List.mem_singleton] at h; simp [h, Ne.symm hc]
      | cons first rest =>
        simp only [hs, List.mem_cons] at h
        rcases h with rfl | h
        · have := @ih first (by simp [hs])
          simp [this, Ne.symm hc]
        · exact ih (by simp [hs, h])

theorem mem_of_mem_splitAt {sep c : Char} {cs part : List Char} (hpart : part ∈ splitAt sep cs)
    (hc : c ∈ part) : c ∈ cs := by
  induction cs generalizing part with
  | nil => simp_all [splitAt]
  | cons d cs ih =>
    by_cases hd : d = sep
    · rw [splitAt, if_pos hd, List.mem_cons] at hpart
      rcases hpart with rfl | hpart
      · cases hc
      · exact List.mem_cons_of_mem d (ih hpart hc)
    · rw [splitAt, if_neg hd] at hpart
      cases hs : splitAt sep cs with
      | nil =>
        rw [hs] at hpart
        simp_all
      | cons first rest =>
        rw [hs] at hpart
        rcases List.mem_cons.mp hpart with rfl | hpart
        · rcases List.mem_cons.mp hc with rfl | hc
          · exact List.mem_cons_self
          · exact List.mem_cons_of_mem d (ih (hs ▸ List.mem_cons_self) hc)
        · exact List.mem_cons_of_mem d (ih (hs ▸ List.mem_cons_of_mem first hpart) hc)

theorem splitAt_ne_nil (sep : Char) (cs : List Char) : splitAt sep cs ≠ [] := by
  rw [← List.length_pos_iff, length_splitAt]
  omega

theorem splitAt_append_sep (sep : Char) (as bs : List Char) :
    splitAt sep (as ++ sep :: bs) = splitAt sep as ++ splitAt sep bs := by
  induction as with
  | nil => simp [splitAt]
  | cons a as ih =>
    rw [List.cons_append, splitAt, splitAt]
    by_cases h : a = sep
    · rw [if_pos h, if_pos h, ih, List.cons_append]
    · rw [if_neg h, if_neg h, ih]
      cases hs : splitAt sep as with
      | nil => exact absurd hs (splitAt_ne_nil sep as)
      | cons part parts => rfl

theorem splitAt_of_not_mem {sep : Char} {cs : List Char} (h : sep ∉ cs) :
    splitAt sep cs = [cs] := by
  induction cs with
  | nil => rfl
  | cons c cs ih =>
    rw [List.mem_cons, not_or] at h
    rw [splitAt, if_neg (Ne.symm h.1), ih h.2]

def split (sep : Char) (s : String) : List String := (splitAt sep s.toList).map String.ofList

end StarSurvey.Text
