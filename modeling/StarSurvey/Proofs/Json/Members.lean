import Mathlib.Data.List.Nodup
import StarSurvey.Json.Document

/-!
# Members sorted by key

- **Order** (`IsSorted`): a key stands in front of all that are greater, so it stands once.
- **Operations** (`mem_insertMember_iff`, `mem_eraseMember_iff`): setting a key and taking one out
  matter to this key only, and keep the order.
- **Extensionality** (`IsSorted.ext`): members in their order are known by what is among them.
-/

namespace StarSurvey.Json

variable {α : Type} {j k : String} {v w : α} {ms ns : List (String × α)}

/-- The keys are in their order, and none stands twice. -/
def IsSorted (ms : List (String × α)) : Prop := ms.Pairwise fun m m' => m.1 < m'.1

theorem not_mem_of_lt (h : ∀ m ∈ ms, k < m.1) : (k, v) ∉ ms :=
  fun hm => String.lt_irrefl k (h (k, v) hm)

/-- What is in front of the first is in front of all. -/
theorem IsSorted.lt_of_lt_head {m : String × α} (h : IsSorted (m :: ms)) (hlt : k < m.1) :
    ∀ m' ∈ m :: ms, k < m'.1 := by
  intro m' hm'
  rcases List.mem_cons.mp hm' with rfl | hm'
  · exact hlt
  · exact String.lt_trans hlt (List.rel_of_pairwise_cons h hm')

/-! ## Operations -/

theorem mem_eraseMember_iff : (j, w) ∈ eraseMember k ms ↔ j ≠ k ∧ (j, w) ∈ ms := by
  simp [eraseMember, and_comm]

theorem IsSorted.eraseMember (h : IsSorted ms) (k : String) : IsSorted (eraseMember k ms) :=
  List.Pairwise.filter _ h

theorem mem_insertMember_iff (h : IsSorted ms) :
    (j, w) ∈ insertMember k v ms ↔ if j = k then w = v else (j, w) ∈ ms := by
  induction ms with
  | nil =>
    by_cases hj : j = k <;> simp [insertMember, hj]
  | cons m ms ih =>
    obtain ⟨k', v'⟩ := m
    obtain ⟨hfirst, hrest⟩ := List.pairwise_cons.mp h
    rw [insertMember]
    split
    · rename_i heq
      subst heq
      by_cases hj : j = k
      · subst hj
        simp [not_mem_of_lt hfirst]
      · simp [hj]
    · rename_i hne
      split
      · rename_i hlt
        have hnot : (k, w) ∉ (k', v') :: ms := not_mem_of_lt (h.lt_of_lt_head hlt)
        by_cases hj : j = k
        · subst hj
          simp [hnot]
        · simp [hj]
      · rw [List.mem_cons, List.mem_cons, ih hrest]
        by_cases hj : j = k
        · subst hj
          simp [hne]
        · simp [hj]

theorem IsSorted.insertMember (h : IsSorted ms) (k : String) (v : α) :
    IsSorted (insertMember k v ms) := by
  induction ms with
  | nil => exact List.pairwise_singleton _ _
  | cons m ms ih =>
    obtain ⟨k', v'⟩ := m
    obtain ⟨hfirst, hrest⟩ := List.pairwise_cons.mp h
    rw [Json.insertMember]
    split
    · rename_i heq
      subst heq
      exact .cons hfirst hrest
    · rename_i hne
      split
      · rename_i hlt
        exact .cons (h.lt_of_lt_head hlt) h
      · rename_i hnot
        refine .cons (fun m hm => ?_) (ih hrest)
        have hmem := (mem_insertMember_iff hrest).mp hm
        split at hmem
        · rename_i hkey
          rw [hkey]
          exact Classical.byContradiction fun hle => hne
            (String.le_antisymm (String.not_lt.mp hle) (String.not_lt.mp hnot))
        · exact hfirst m hmem

/-! ## Extensionality -/

namespace IsSorted

theorem nodup_keys (h : IsSorted ms) : (ms.map Prod.fst).Nodup := by
  rw [List.nodup_iff_pairwise_ne, List.pairwise_map]
  refine h.imp fun {m m'} hlt heq => ?_
  rw [heq] at hlt
  exact String.lt_irrefl _ hlt

/-- Members in their order are known by what is among them. -/
theorem ext (hms : IsSorted ms) (hns : IsSorted ns) (h : ∀ k v, (k, v) ∈ ms ↔ (k, v) ∈ ns) :
    ms = ns := by
  have hperm : ms.Perm ns := by
    refine (List.perm_ext_iff_of_nodup ?_ ?_).mpr fun m => h m.1 m.2
    · exact List.Nodup.of_map _ hms.nodup_keys
    · exact List.Nodup.of_map _ hns.nodup_keys
  exact hperm.eq_of_pairwise (fun m m' _ _ hlt hgt => (String.lt_asymm hlt hgt).elim) hms hns

end IsSorted

end StarSurvey.Json
