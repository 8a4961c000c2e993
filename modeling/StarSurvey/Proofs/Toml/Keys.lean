import Mathlib.Data.List.Nodup
import StarSurvey.Toml.Reader

/-!
# The keys of a table are distinct

- **Entries** (`Entries.distinct_put`, `Entries.distinct_erase`): what changes a table keeps its keys
  distinct.
- **Statements** (`Building.distinct_step`): so does every statement, wherever its path leads.
- **Documents** (`Entries.distinct_ofText?`): so no key stands twice in the root table of a document,
  and what a key has is the one value that stands behind it.
-/

namespace StarSurvey.Toml

namespace Entries

variable {es : Entries} {k : String} {v : Value}

/-- No key stands twice. -/
def Distinct (es : Entries) : Prop := (es.map Prod.fst).Nodup

theorem distinct_nil : Distinct [] := List.nodup_nil

theorem distinct_cons : Distinct ((k, v) :: es) ↔ k ∉ es.map Prod.fst ∧ es.Distinct :=
  List.nodup_cons

theorem distinct_put (h : es.Distinct) (k : String) (v : Value) : (es.put k v).Distinct := by
  unfold put
  split_ifs with hk
  · have hkeys : (es.map fun e => if e.1 == k then (k, v) else e).map Prod.fst = es.map Prod.fst := by
      rw [List.map_map]
      refine List.map_congr_left fun e _ => ?_
      by_cases he : e.1 = k
      · simp [he]
      · simp [he]
    rw [Distinct, hkeys]
    exact h
  · have hnew : k ∉ es.map Prod.fst := by
      intro hmem
      obtain ⟨e, he, rfl⟩ := List.mem_map.mp hmem
      exact hk (List.any_eq_true.mpr ⟨e, he, beq_self_eq_true e.1⟩)
    rw [Distinct, List.map_append]
    refine List.nodup_append.mpr ⟨h, List.nodup_singleton k, fun a ha b hb hab => hnew ?_⟩
    obtain rfl : b = k := List.mem_singleton.mp hb
    exact hab ▸ ha

theorem distinct_erase (h : es.Distinct) (k : String) : (es.erase k).Distinct :=
  h.sublist (List.filter_sublist.map Prod.fst)

@[simp] theorem get?_nil (key : String) : get? [] key = none := rfl

/-- Another key has what it has in the rest of the table. -/
theorem get?_cons (key : String) :
    get? ((k, v) :: es) key = if key = k then some v else es.get? key := by
  by_cases h : key = k
  · simp [get?, h]
  · have hne : (key == k) = false := by simpa using h
    simp [get?, List.lookup_cons, hne, h]

theorem get?_eq_none_of_not_mem (h : k ∉ es.map Prod.fst) : es.get? k = none := by
  induction es with
  | nil => rfl
  | cons e es ih =>
    rw [List.map_cons, List.mem_cons, not_or] at h
    rw [get?_cons, if_neg h.1]
    exact ih h.2

end Entries

/-! ## Statements -/

/-- A change of a table that keeps its keys distinct. -/
def KeepsDistinct (f : Entries → Option Entries) : Prop :=
  ∀ es es', f es = some es' → es.Distinct → es'.Distinct

theorem keepsDistinct_addNew (key : String) (v : Value) : KeepsDistinct (addNew key v) := by
  intro es es' h hes
  unfold addNew at h
  split at h
  · cases h
  · cases h
    exact Entries.distinct_put hes key v

theorem keepsDistinct_define (key : String) : KeepsDistinct (define key) := by
  intro es es' h hes
  unfold define at h
  split at h
  · cases h
    exact Entries.distinct_put hes key _
  · cases h
    exact Entries.distinct_put (Entries.distinct_erase hes key) key _
  · cases h

theorem keepsDistinct_extend (key : String) : KeepsDistinct (extend key) := by
  intro es es' h hes
  unfold extend at h
  split at h
  · cases h
    exact Entries.distinct_put hes key _
  · cases h
    exact Entries.distinct_put hes key _
  · cases h

/-- What is put behind a key hangs on what has been found; the keys are distinct in any case. -/
theorem distinct_of_bind_put {α : Type} {es es' : Entries} {x : Option α} {k : String}
    {value : α → Value} (hes : es.Distinct)
    (h : (x.bind fun a => some (es.put k (value a))) = some es') : es'.Distinct := by
  obtain ⟨a, -, h⟩ := Option.bind_eq_some_iff.mp h
  cases h
  exact Entries.distinct_put hes k _

/-- Below the root a path changes the value of its first key only. -/
theorem keepsDistinct_alongHeaders {f : Entries → Option Entries} (hf : KeepsDistinct f)
    (path : List String) : KeepsDistinct (alongHeaders f path) := by
  intro es es' h hes
  cases path with
  | nil => exact hf es es' h hes
  | cons k ks =>
    unfold alongHeaders at h
    split at h
    · exact distinct_of_bind_put hes h
    · cases h
    · exact distinct_of_bind_put hes h
    · obtain ⟨last, -, h⟩ := Option.bind_eq_some_iff.mp h
      exact distinct_of_bind_put hes h
    · cases h

theorem keepsDistinct_alongDots {f : Entries → Option Entries} (hf : KeepsDistinct f)
    (origin : Origin) (dotted : Bool) (path : List String) :
    KeepsDistinct (alongDots f origin dotted path) := by
  intro es es' h hes
  cases path with
  | nil =>
    unfold alongDots at h
    split at h
    · exact hf es es' h hes
    · cases h
  | cons k ks =>
    unfold alongDots at h
    split at h
    · exact distinct_of_bind_put hes h
    · cases h
    · cases h
    · exact distinct_of_bind_put hes h
    · obtain ⟨last, -, h⟩ := Option.bind_eq_some_iff.mp h
      exact distinct_of_bind_put hes h
    · cases h

theorem keepsDistinct_assign (path : List String) (key : String) (v : Value) :
    KeepsDistinct (assign path key v) :=
  keepsDistinct_alongDots (keepsDistinct_addNew key v) _ _ path

/-- Every statement keeps the keys of the root distinct. -/
theorem Building.distinct_step {b b' : Building} {s : Statement} (h : b.step s = some b')
    (hb : b.root.Distinct) : b'.root.Distinct := by
  have hchange : ∃ f path, KeepsDistinct f ∧ alongHeaders f path b.root = some b'.root := by
    cases s with
    | header path key =>
      obtain ⟨root, hroot, h⟩ := Option.bind_eq_some_iff.mp h
      cases h
      exact ⟨_, path, keepsDistinct_define key, hroot⟩
    | arrayHeader path key =>
      obtain ⟨root, hroot, h⟩ := Option.bind_eq_some_iff.mp h
      cases h
      exact ⟨_, path, keepsDistinct_extend key, hroot⟩
    | assign path key v =>
      obtain ⟨root, hroot, h⟩ := Option.bind_eq_some_iff.mp h
      cases h
      exact ⟨_, b.current, keepsDistinct_assign path key v, hroot⟩
  obtain ⟨f, path, hf, halong⟩ := hchange
  exact keepsDistinct_alongHeaders hf path _ _ halong hb

/-! ## Documents -/

theorem Building.distinct_steps {ss : List Statement} {b b' : Building}
    (h : ss.foldlM step b = some b') (hb : b.root.Distinct) : b'.root.Distinct := by
  induction ss generalizing b with
  | nil =>
    cases h
    exact hb
  | cons s ss ih =>
    rw [List.foldlM_cons] at h
    obtain ⟨b₁, hstep, h⟩ := Option.bind_eq_some_iff.mp h
    exact ih h (distinct_step hstep hb)

/-- No key stands twice in the root table of a document. -/
theorem Entries.distinct_ofText? {text : String} {es : Entries} (h : ofText? text = some es) :
    es.Distinct := by
  obtain ⟨ss, -, h⟩ := Option.bind_eq_some_iff.mp h
  obtain ⟨b, hb, rfl⟩ := Option.map_eq_some_iff.mp h
  exact Building.distinct_steps hb distinct_nil

end StarSurvey.Toml
