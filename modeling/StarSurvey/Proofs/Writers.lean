import StarSurvey.FileTree.Writers
import StarSurvey.Proofs.FileTree

/-!
# Writers that replace the same file at once leave it whole

- **The target** (`target?_of_canHold`, `DirectoriesIn.target?`): a file that a path can hold is at
  the location that the path asks for, and files do not change which one that is.
- **The invariant** (`Inv`): each temporary file belongs to one writer, was not there before the
  run, is not the target, and holds what its writer has appended; outside of the temporary files the
  tree is `settledTree`: the one from before the run, with the content of the writer that was the last
  to rename. Every step keeps it (`Step.inv`).
- **All runs** (`Reachable.inv`, `Reachable.target_whole`): at every moment the target is as it was
  or holds the whole content of one writer, and at the end nothing else has changed.
- **One writer** (`Reachable.replace`): `FileTree.replace` is a run of one writer.
-/

namespace StarSurvey

namespace FileTree

variable {t t' : FileTree} {l k : Location} {path : String}

/-! ## The target -/

theorem target?_eq_some_iff :
    t.target? path = some l ↔
      ∃ name directory, fileName? path = some name ∧ t.parent path = .ok directory ∧
        l = directory ++ [name] := by
  unfold target?
  cases hn : fileName? path with
  | none => simp
  | some name =>
    cases hp : t.parent path with
    | error fault => simp
    | ok directory => simp [eq_comm]

/-- The location of a target does not depend on files. -/
theorem DirectoriesIn.target? (h : DirectoriesIn t t') (ht : t.target? path = some l) :
    t'.target? path = some l := by
  rw [target?_eq_some_iff] at ht ⊢
  obtain ⟨name, directory, hn, hp, hl⟩ := ht
  obtain ⟨origin, hs, hw⟩ := parent_eq_ok_iff.mp hp
  exact ⟨name, directory, hn, parent_eq_ok_iff.mpr ⟨origin, h.start.trans hs, h.walk hw⟩, hl⟩

/-- A file that a path can hold is at the location that the path asks for. -/
theorem target?_of_canHold (h : CanHold t path l) : t.target? path = some l :=
  target?_eq_some_iff.mpr h.parent

/-! ## One file changes -/

section Adjust

variable {mode : Nat} {content : List UInt8} {f : Nat → List UInt8 → Node}

theorem adjust_of_file (h : t.get? l = some (.file mode content)) :
    t.adjust l f = t.set l (f mode content) := by
  rw [adjust, h]

theorem get?_adjust_self (h : t.get? l = some (.file mode content)) :
    (t.adjust l f).get? l = some (f mode content) := by
  rw [adjust_of_file h, get?_set_self t (ne_nil_of_get?_eq_file h)]

theorem get?_adjust_of_ne (t : FileTree) (f : Nat → List UInt8 → Node) (h : k ≠ l) :
    (t.adjust l f).get? k = t.get? k := by
  unfold adjust
  split
  · exact get?_set_of_ne t h _
  · rfl

theorem workingDirectory_adjust (t : FileTree) (l : Location) (f : Nat → List UInt8 → Node) :
    (t.adjust l f).workingDirectory = t.workingDirectory := by
  unfold adjust
  split <;> rfl

end Adjust

theorem workingDirectory_move (t : FileTree) (k l : Location) :
    (t.move k l).workingDirectory = t.workingDirectory := by
  unfold move
  split <;> rfl

end FileTree

namespace Writers

open FileTree

/-! ## The invariant -/

/-- The temporary file of a writer is there, and holds what the writer has appended. -/
def Holds (t : FileTree) (content : List UInt8) : Stage → Prop
  | .starting | .ended _ => True
  | .appending l left => ∃ done, done ++ left = content ∧ t.get? l = some (.file privateMode done)
  | .synced l => t.get? l = some (.file privateMode content)
  | .readable l => t.get? l = some (.file readableMode content)
  | .failing l => ∃ mode found, t.get? l = some (.file mode found)

/-- The tree from before a run, with the content of the last of the writers that have renamed. -/
def settledTree (path : String) (contents : List (List UInt8)) (t : FileTree) (renamed : List Nat) :
    FileTree :=
  match renamed.getLast?, t.target? path with
  | some i, some l => t.set l (.file readableMode (contents.getD i []))
  | _, _ => t

/-- What holds at every moment of a run (module doc). -/
structure Inv (path : String) (contents : List (List UInt8)) (t : FileTree) (s : Writers) :
    Prop where
  workingDirectory : s.tree.workingDirectory = t.workingDirectory
  size : s.stages.length = contents.length
  apart : ∀ {i j l}, s.temporaryOf i = some l → s.temporaryOf j = some l → i = j
  own : ∀ {i l}, s.temporaryOf i = some l → t.target? path ≠ some l
  free : ∀ {i l}, s.temporaryOf i = some l → t.get? l = none
  held : ∀ {i : Nat} {stage content}, s.stages[i]? = some stage → contents[i]? = some content →
    Holds s.tree content stage
  settled : ∀ k, k ∉ s.temporaries → s.tree.get? k = (settledTree path contents t s.renamed).get? k
  renamed : ∀ i, i ∈ s.renamed ↔ s.stages[i]? = some (.ended true)
  canHold : s.renamed ≠ [] → ∃ l, CanHold t path l

variable {path : String} {contents : List (List UInt8)} {t tree' : FileTree} {s s' : Writers}
  {i j : Nat} {l k target : Location} {a b stage : Stage} {content : List UInt8}

theorem mem_temporaries : l ∈ s.temporaries ↔ ∃ i, s.temporaryOf i = some l := by
  unfold temporaries temporaryOf
  rw [List.mem_filterMap]
  constructor
  · rintro ⟨stage, hmem, hl⟩
    obtain ⟨i, hi⟩ := List.mem_iff_getElem?.mp hmem
    exact ⟨i, by rw [hi, Option.bind_some, hl]⟩
  · rintro ⟨i, hi⟩
    obtain ⟨stage, hstage, hl⟩ := Option.bind_eq_some_iff.mp hi
    exact ⟨stage, List.mem_of_getElem? hstage, hl⟩

theorem temporaryOf_of_stage (hi : s.stages[i]? = some a) : s.temporaryOf i = a.temporary? := by
  rw [temporaryOf, hi, Option.bind_some]

/-- The temporary files after a writer has moved on. -/
theorem temporaryOf_set (hi : s.stages[i]? = some a) (tree' : FileTree) (b : Stage)
    (renamed : List Nat) (j : Nat) :
    (⟨tree', s.stages.set i b, renamed⟩ : Writers).temporaryOf j =
      if j = i then b.temporary? else s.temporaryOf j := by
  have hlt := (List.getElem?_eq_some_iff.mp hi).1
  by_cases hj : j = i
  · rw [if_pos hj, hj, temporaryOf, List.getElem?_set_self hlt, Option.bind_some]
  · rw [if_neg hj, temporaryOf, List.getElem?_set_ne (Ne.symm hj), temporaryOf]

/-- A temporary file that is gone now was the one of the writer that has moved on. -/
theorem not_mem_temporaries_of_set {renamed : List Nat} (hi : s.stages[i]? = some a)
    (hk : k ∉ (⟨tree', s.stages.set i b, renamed⟩ : Writers).temporaries)
    (ha : a.temporary? ≠ some k) : k ∉ s.temporaries := by
  intro hmem
  obtain ⟨j, hj⟩ := mem_temporaries.mp hmem
  have hji : j ≠ i := by
    rintro rfl
    exact ha ((temporaryOf_of_stage hi).symm.trans hj)
  exact hk (mem_temporaries.mpr ⟨j, by rw [temporaryOf_set hi, if_neg hji, hj]⟩)

theorem Holds.isFile (h : Holds t content a) (hl : a.temporary? = some l) :
    ∃ mode found, t.get? l = some (.file mode found) := by
  cases a with
  | starting | ended => cases hl
  | appending k left =>
    cases hl
    obtain ⟨done, -, hk⟩ := h
    exact ⟨_, _, hk⟩
  | synced k | readable k =>
    cases hl
    exact ⟨_, _, h⟩
  | failing k =>
    cases hl
    exact h

/-- A writer's own file is all that matters to it. -/
theorem Holds.of_eq (h : Holds t content a)
    (heq : ∀ l, a.temporary? = some l → tree'.get? l = t.get? l) : Holds tree' content a := by
  cases a with
  | starting | ended => trivial
  | appending k left =>
    obtain ⟨done, hdone, hk⟩ := h
    exact ⟨done, hdone, (heq k rfl).trans hk⟩
  | synced k | readable k => exact (heq k rfl).trans h
  | failing k =>
    obtain ⟨mode, found, hk⟩ := h
    exact ⟨mode, found, (heq k rfl).trans hk⟩

section

variable (hi : Inv path contents t s)

include hi

theorem Inv.exists_content (ha : s.stages[i]? = some a) : ∃ c, contents[i]? = some c := by
  have hlt := (List.getElem?_eq_some_iff.mp ha).1
  rw [hi.size] at hlt
  exact ⟨_, List.getElem?_eq_getElem hlt⟩

theorem Inv.isFile (hl : s.temporaryOf i = some l) :
    ∃ mode found, s.tree.get? l = some (.file mode found) := by
  obtain ⟨stage, hstage, hl'⟩ := Option.bind_eq_some_iff.mp hl
  obtain ⟨c, hc⟩ := hi.exists_content hstage
  exact (hi.held hstage hc).isFile hl'

theorem Inv.get?_ne_none (hl : s.temporaryOf i = some l) : s.tree.get? l ≠ none := by
  obtain ⟨mode, found, hf⟩ := hi.isFile hl
  rw [hf]
  exact Option.some_ne_none _

theorem Inv.target_not_mem (ht : t.target? path = some l) : l ∉ s.temporaries := by
  intro hmem
  obtain ⟨i, hl⟩ := mem_temporaries.mp hmem
  exact hi.own hl ht

/-- A writer that has moved on disturbs nobody, if it leaves their temporary files alone. -/
theorem Inv.held_set (ha : s.stages[i]? = some a)
    (hself : ∀ c, contents[i]? = some c → Holds tree' c b)
    (hothers : ∀ {j l}, j ≠ i → s.temporaryOf j = some l → tree'.get? l = s.tree.get? l)
    {stage : Stage} {c : List UInt8} (hstage : (s.stages.set i b)[j]? = some stage)
    (hc : contents[j]? = some c) : Holds tree' c stage := by
  by_cases hj : j = i
  · subst hj
    rw [List.getElem?_set_self (List.getElem?_eq_some_iff.mp ha).1] at hstage
    cases hstage
    exact hself c hc
  · rw [List.getElem?_set_ne (Ne.symm hj)] at hstage
    exact (hi.held hstage hc).of_eq fun l hl =>
      hothers hj ((temporaryOf_of_stage hstage).trans hl)

end

/-- What the renames have done is at the target only. -/
theorem get?_settledTree_of_ne (renamed : List Nat) (h : t.target? path ≠ some k) :
    (settledTree path contents t renamed).get? k = t.get? k := by
  unfold settledTree
  split
  · rename_i i l _ hl
    refine get?_set_of_ne t ?_ _
    rintro rfl
    exact h hl
  · rfl

/-- What is missing now, but for the target, was not there before the run. -/
theorem Inv.get?_eq_none (hi : Inv path contents t s) (hnone : s.tree.get? l = none)
    (htarget : t.target? path ≠ some l) : t.get? l = none := by
  have hmem : l ∉ s.temporaries := by
    intro hmem
    obtain ⟨j, hl⟩ := mem_temporaries.mp hmem
    exact hi.get?_ne_none hl hnone
  rw [← get?_settledTree_of_ne s.renamed htarget, ← hi.settled l hmem, hnone]

theorem settledTree_of_canHold (renamed : List Nat) (hc : CanHold t path target)
    (h : contents[i]? = some content) :
    settledTree path contents t (renamed ++ [i]) = t.set target (.file readableMode content) := by
  have hget : contents.getD i [] = content := by rw [List.getD_eq_getElem?_getD, h]; rfl
  simp only [settledTree, List.getLast?_concat, target?_of_canHold hc, hget]

/-- The renames add no directory and take none away. -/
theorem directoriesIn_settledTree {renamed : List Nat}
    (h : renamed ≠ [] → ∃ l, CanHold t path l) :
    DirectoriesIn t (settledTree path contents t renamed) ∧
      DirectoriesIn (settledTree path contents t renamed) t := by
  rcases List.eq_nil_or_concat renamed with rfl | ⟨before, i, rfl⟩
  · exact ⟨.refl t, .refl t⟩
  · obtain ⟨l, hc⟩ := h (by simp)
    simp only [settledTree, List.concat_eq_append, List.getLast?_concat, target?_of_canHold hc]
    obtain ⟨directory, name, -, -, -, hd, rfl⟩ := hc
    exact ⟨directoriesIn_set_file hd _ _, directoriesIn_of_set_file t _ _ _⟩

/-- A run adds no directory and takes none away. -/
theorem Inv.directoriesIn (hi : Inv path contents t s) :
    DirectoriesIn t s.tree ∧ DirectoriesIn s.tree t := by
  obtain ⟨hto, hfrom⟩ := directoriesIn_settledTree hi.canHold
  refine ⟨⟨hi.workingDirectory, fun k hk => ?_⟩, ⟨hi.workingDirectory.symm, fun k hk => ?_⟩⟩
  · have hmem : k ∉ s.temporaries := by
      intro hmem
      obtain ⟨i, hl⟩ := mem_temporaries.mp hmem
      rw [hi.free hl] at hk
      cases hk
    rw [hi.settled k hmem]
    exact hto.get? k hk
  · have hmem : k ∉ s.temporaries := by
      intro hmem
      obtain ⟨i, hl⟩ := mem_temporaries.mp hmem
      obtain ⟨mode, found, hf⟩ := hi.isFile hl
      rw [hf] at hk
      cases hk
    exact hfrom.get? k (hi.settled k hmem ▸ hk)

/-! ## Every step keeps the invariant -/

theorem inv_start (path : String) (contents : List (List UInt8)) (t : FileTree) :
    Inv path contents t (start t contents.length) := by
  have hnone : ∀ {i l}, (start t contents.length).temporaryOf i ≠ some l := by
    intro i l hl
    obtain ⟨stage, hstage, hl'⟩ := Option.bind_eq_some_iff.mp hl
    obtain rfl := List.eq_of_mem_replicate (List.mem_of_getElem? hstage)
    cases hl'
  refine ⟨rfl, List.length_replicate, fun h => absurd h hnone, fun h => absurd h hnone,
    fun h => absurd h hnone, ?_, fun _ _ => rfl, ?_, fun h => absurd rfl h⟩
  · intro i stage content hstage _
    obtain rfl := List.eq_of_mem_replicate (List.mem_of_getElem? hstage)
    trivial
  · intro i
    simp [start, List.getElem?_replicate]

/-- A writer that does not rename moves on: it works on its temporary file, makes it, or takes it
away. -/
theorem Inv.advance (hi : Inv path contents t s) (ha : s.stages[i]? = some a)
    (hplace : tree'.workingDirectory = s.tree.workingDirectory)
    (hother : ∀ k, a.temporary? ≠ some k → b.temporary? ≠ some k →
      tree'.get? k = s.tree.get? k)
    (hmade : ∀ l, b.temporary? = some l → a.temporary? = some l ∨
      s.tree.get? l = none ∧ t.target? path ≠ some l)
    (hgone : ∀ l, a.temporary? = some l → b.temporary? = some l ∨ tree'.get? l = none)
    (hholds : ∀ c, contents[i]? = some c → Holds s.tree c a → Holds tree' c b)
    (hea : a ≠ .ended true) (heb : b ≠ .ended true) :
    Inv path contents t ⟨tree', s.stages.set i b, s.renamed⟩ := by
  have hlt := (List.getElem?_eq_some_iff.mp ha).1
  have hia := temporaryOf_of_stage ha
  have htemp := temporaryOf_set ha tree' b s.renamed
  -- Nobody else has a temporary file where the writer has one now.
  have hforeign : ∀ {j l}, j ≠ i → s.temporaryOf j = some l →
      a.temporary? ≠ some l ∧ b.temporary? ≠ some l := by
    intro j l hj hl
    have hal : a.temporary? ≠ some l := fun h => hj (hi.apart hl (hia.trans h))
    refine ⟨hal, fun hbl => ?_⟩
    rcases hmade l hbl with h | ⟨h, -⟩
    · exact hal h
    · exact hi.get?_ne_none hl h
  -- A file that the writer has made was not there before the run.
  have hown : ∀ l, b.temporary? = some l → t.target? path ≠ some l ∧ t.get? l = none := by
    intro l hbl
    rcases hmade l hbl with h | ⟨hnone, htarget⟩
    · exact ⟨hi.own (hia.trans h), hi.free (hia.trans h)⟩
    · exact ⟨htarget, hi.get?_eq_none hnone htarget⟩
  constructor
  case workingDirectory => exact hplace.trans hi.workingDirectory
  case size => rw [List.length_set, hi.size]
  case apart =>
    intro j k l hj hk
    rw [htemp] at hj hk
    split_ifs at hj hk with hji hki
    · rw [hji, hki]
    · exact absurd hj (hforeign hki hk).2
    · exact absurd hk (hforeign hji hj).2
    · exact hi.apart hj hk
  case own =>
    intro j l hl
    rw [htemp] at hl
    split_ifs at hl
    · exact (hown l hl).1
    · exact hi.own hl
  case free =>
    intro j l hl
    rw [htemp] at hl
    split_ifs at hl
    · exact (hown l hl).2
    · exact hi.free hl
  case held =>
    intro j stage d hstage hd
    refine hi.held_set ha (fun c hc => hholds c hc (hi.held ha hc)) ?_ hstage hd
    intro j l hj hl
    obtain ⟨hal, hbl⟩ := hforeign hj hl
    exact hother l hal hbl
  case settled =>
    intro k hk
    have hbk : b.temporary? ≠ some k := by
      intro hbk
      exact hk (mem_temporaries.mpr ⟨i, by rw [htemp, if_pos rfl, hbk]⟩)
    by_cases hak : a.temporary? = some k
    · have hnone := (hgone k hak).resolve_left hbk
      rw [get?_settledTree_of_ne s.renamed (hi.own (hia.trans hak)), hi.free (hia.trans hak)]
      exact hnone
    · exact (hother k hak hbk).trans (hi.settled k (not_mem_temporaries_of_set ha hk hak))
  case renamed =>
    intro j
    by_cases hj : j = i
    · subst hj
      rw [hi.renamed j, ha, List.getElem?_set_self hlt, Option.some.injEq, Option.some.injEq]
      exact iff_of_false hea heb
    · rw [hi.renamed j, List.getElem?_set_ne (Ne.symm hj)]
  case canHold => exact hi.canHold

theorem Inv.create (hi : Inv path contents t s) (ha : s.stages[i]? = some .starting)
    (hc : contents[i]? = some content) (hfree : s.tree.get? l = none)
    (htarget : t.target? path ≠ some l) :
    Inv path contents t { s with
      tree := s.tree.set l (.file privateMode [])
      stages := s.stages.set i (.appending l content) } := by
  refine hi.advance ha rfl ?_ ?_ ?_ ?_ (by simp) (by simp)
  · intro k _ hk
    exact get?_set_of_ne _ (fun h => hk (congrArg some h.symm)) _
  · rintro _ ⟨⟩
    exact .inr ⟨hfree, htarget⟩
  · rintro _ ⟨⟩
  · intro c hc' _
    rw [hc] at hc'
    cases hc'
    exact ⟨[], rfl, get?_set_self _ (ne_nil_of_get?_eq_none hfree) _⟩

/-- A writer works on its temporary file. -/
theorem Inv.work (hi : Inv path contents t s) (ha : s.stages[i]? = some a)
    (hal : a.temporary? = some l) (hbl : b.temporary? = some l)
    (hplace : tree'.workingDirectory = s.tree.workingDirectory)
    (hother : ∀ k, k ≠ l → tree'.get? k = s.tree.get? k)
    (hholds : ∀ c, Holds s.tree c a → Holds tree' c b) :
    Inv path contents t ⟨tree', s.stages.set i b, s.renamed⟩ := by
  refine hi.advance ha hplace ?_ ?_ ?_ (fun c _ => hholds c) ?_ ?_
  · intro k hak _
    refine hother k fun h => hak ?_
    rw [hal, h]
  · intro k hk
    rw [hal, ← hbl, hk]
    exact .inl rfl
  · intro k hk
    rw [hbl, ← hal, hk]
    exact .inl rfl
  · rintro rfl
    cases hal
  · rintro rfl
    cases hbl

theorem Inv.rename (hi : Inv path contents t s) (ha : s.stages[i]? = some (.readable l))
    (hc : CanHold t path target) :
    Inv path contents t {
      tree := s.tree.move l target
      stages := s.stages.set i (.ended true)
      renamed := s.renamed ++ [i] } := by
  have hlt := (List.getElem?_eq_some_iff.mp ha).1
  have hia : s.temporaryOf i = some l := temporaryOf_of_stage ha
  have htemp := temporaryOf_set ha (s.tree.move l target) (.ended true) (s.renamed ++ [i])
  have htarget := target?_of_canHold hc
  obtain ⟨c, hci⟩ := hi.exists_content ha
  have hl : s.tree.get? l = some (.file readableMode c) := hi.held ha hci
  have hmove := get?_move hl (ne_nil_of_get?_eq_file hl) hc.ne_nil
  have hold : ∀ {j k}, (⟨s.tree.move l target, s.stages.set i (.ended true), s.renamed ++ [i]⟩ :
      Writers).temporaryOf j = some k → j ≠ i ∧ s.temporaryOf j = some k := by
    intro j k hk
    rw [htemp] at hk
    split_ifs at hk with hj
    · cases hk
    · exact ⟨hj, hk⟩
  constructor
  case workingDirectory => exact (workingDirectory_move _ _ _).trans hi.workingDirectory
  case size => rw [List.length_set, hi.size]
  case apart => exact fun hj hk => hi.apart (hold hj).2 (hold hk).2
  case own => exact fun hk => hi.own (hold hk).2
  case free => exact fun hk => hi.free (hold hk).2
  case held =>
    intro j stage d hstage hd
    refine hi.held_set (b := .ended true) ha (fun _ _ => trivial) ?_ hstage hd
    intro j k hj hk
    have hkt : k ≠ target := fun h => hi.own hk (h ▸ htarget)
    have hkl : k ≠ l := fun h => hj (hi.apart hk (h ▸ hia))
    rw [hmove, if_neg hkt, if_neg hkl]
  case settled =>
    intro k hk
    rw [settledTree_of_canHold s.renamed hc hci, hmove]
    by_cases hkt : k = target
    · rw [if_pos hkt, hkt, get?_set_self t hc.ne_nil]
    · have hne : t.target? path ≠ some k := by
        rw [htarget]
        exact fun h => hkt (Option.some.inj h).symm
      rw [if_neg hkt, get?_set_of_ne t hkt]
      by_cases hkl : k = l
      · rw [if_pos hkl, hkl, hi.free hia]
      · have hkl' : (Stage.readable l).temporary? ≠ some k := fun h => hkl (Option.some.inj h).symm
        rw [if_neg hkl, ← get?_settledTree_of_ne s.renamed hne]
        exact hi.settled k (not_mem_temporaries_of_set ha hk hkl')
  case renamed =>
    intro j
    rw [List.mem_append, List.mem_singleton, hi.renamed j]
    by_cases hj : j = i
    · subst hj
      simp [List.getElem?_set_self hlt]
    · simp [List.getElem?_set_ne (Ne.symm hj), hj]
  case canHold => exact fun _ => ⟨target, hc⟩

theorem Step.inv (h : Step path contents s s') (hi : Inv path contents t s) :
    Inv path contents t s' := by
  obtain ⟨hto, hfrom⟩ := hi.directoriesIn
  cases h with
  | create i ha hc ht hd htag hown hfree =>
    refine hi.create ha hc hfree ?_
    rw [hfrom.target? ht]
    exact fun h => hown (Option.some.inj h).symm
  | refuse i ha =>
    refine hi.advance ha rfl (fun _ _ _ => rfl) ?_ ?_ (fun _ _ _ => trivial) (by simp) (by simp)
    · rintro _ ⟨⟩
    · rintro _ ⟨⟩
  | @append i l piece rest ha =>
    refine hi.work ha rfl rfl (workingDirectory_adjust _ _ _)
      (fun k hk => get?_adjust_of_ne _ _ hk) ?_
    rintro c ⟨done, hdone, hl⟩
    exact ⟨done ++ piece, by rw [List.append_assoc, hdone], get?_adjust_self hl⟩
  | sync i ha =>
    refine hi.work ha rfl rfl rfl (fun _ _ => rfl) ?_
    rintro c ⟨done, hdone, hl⟩
    rw [List.append_nil] at hdone
    exact hdone ▸ hl
  | publish i ha =>
    exact hi.work ha rfl rfl (workingDirectory_adjust _ _ _)
      (fun k hk => get?_adjust_of_ne _ _ hk) fun c hl => get?_adjust_self hl
  | rename i ha hr =>
    exact hi.rename ha (hfrom.canHold hto (renameTarget_eq_ok_iff.mp hr))
  | fail i ha hl =>
    exact hi.work ha hl rfl rfl (fun _ _ => rfl) fun c hh => hh.isFile hl
  | @cleanUp i l ha =>
    have hne : l ≠ [] := by
      obtain ⟨mode, found, hl⟩ := hi.isFile (temporaryOf_of_stage ha)
      exact ne_nil_of_get?_eq_file hl
    refine hi.advance ha rfl ?_ ?_ ?_ (fun _ _ _ => trivial) (by simp) (by simp)
    · intro k hk _
      exact get?_erase_of_ne _ fun h => hk (congrArg some h.symm)
    · rintro _ ⟨⟩
    · rintro _ ⟨⟩
      exact .inr (get?_erase_self _ hne)

theorem Reachable.inv (h : Reachable path contents t s) : Inv path contents t s := by
  induction h with
  | start => exact inv_start path contents t
  | step _ hstep ih => exact hstep.inv ih

/-! ## All runs -/

theorem Inv.getElem?_of_renamed (hi : Inv path contents t s) (h : s.renamed.getLast? = some i) :
    ∃ l c, CanHold t path l ∧ contents[i]? = some c ∧
      settledTree path contents t s.renamed = t.set l (.file readableMode c) := by
  obtain ⟨before, hs⟩ := List.getLast?_eq_some_iff.mp h
  obtain ⟨l, hc⟩ := hi.canHold (by simp [hs])
  obtain ⟨c, hci⟩ := hi.exists_content ((hi.renamed i).mp (List.mem_of_getLast? h))
  exact ⟨l, c, hc, hci, by rw [hs, settledTree_of_canHold before hc hci]⟩

/-- At every moment the target is as it was before the run, or holds the whole content of a writer
that has renamed, readable for everybody; outside of it and of the temporary files nothing has
changed. Once all writers have ended no temporary file is left, and the target holds the content of
the writer that was the last to rename; if none has, the tree is as it was. -/
theorem Reachable.target_whole (h : Reachable path contents t s) :
    (∀ l, t.target? path = some l → s.tree.get? l = t.get? l ∨
      ∃ i ∈ s.renamed, ∃ c, contents[i]? = some c ∧
        s.tree.get? l = some (.file readableMode c)) ∧
    (∀ k, t.target? path ≠ some k → k ∉ s.temporaries → s.tree.get? k = t.get? k) ∧
    (s.Finished → s.temporaries = [] ∧
      (∀ i, i ∈ s.renamed ↔ s.stages[i]? = some (.ended true)) ∧
      (s.renamed = [] → ∀ k, s.tree.get? k = t.get? k) ∧
      ∀ i, s.renamed.getLast? = some i → ∃ l c, t.target? path = some l ∧
        contents[i]? = some c ∧ s.tree.get? l = some (.file readableMode c) ∧
        ∀ k, k ≠ l → s.tree.get? k = t.get? k) := by
  have hi := h.inv
  refine ⟨fun l hl => ?_, fun k hk hmem => ?_, fun hfinished => ?_⟩
  · rw [hi.settled l (hi.target_not_mem hl)]
    cases hlast : s.renamed.getLast? with
    | none =>
      left
      rw [List.getLast?_eq_none_iff.mp hlast]
      rfl
    | some i =>
      obtain ⟨target, c, hc, hci, hset⟩ := hi.getElem?_of_renamed hlast
      obtain rfl := Option.some.inj ((target?_of_canHold hc).symm.trans hl)
      exact .inr ⟨i, List.mem_of_getLast? hlast, c, hci, by rw [hset, get?_set_self t hc.ne_nil]⟩
  · rw [hi.settled k hmem, get?_settledTree_of_ne _ hk]
  · have hnone : s.temporaries = [] := by
      rw [temporaries, List.filterMap_eq_nil_iff]
      intro stage hstage
      obtain ⟨replaced, rfl⟩ := hfinished stage hstage
      rfl
    have hsettled := fun k => hi.settled k (by rw [hnone]; exact List.not_mem_nil)
    refine ⟨hnone, hi.renamed, fun hno k => ?_, fun i hlast => ?_⟩
    · rw [hsettled, hno]
      rfl
    · obtain ⟨l, c, hc, hci, hset⟩ := hi.getElem?_of_renamed hlast
      refine ⟨l, c, target?_of_canHold hc, hci, ?_, fun k hk => ?_⟩
      · rw [hsettled, hset, get?_set_self t hc.ne_nil]
      · rw [hsettled, hset, get?_set_of_ne t hk]

/-- Two writers replace a file: the second renames while the first has appended half of its content,
and then the first fails. -/
theorem target_whole_of_two_writers :
    ∃ s, Reachable "d/g.json" [[2, 3], [4, 5]]
        ⟨[], [(["d"], .directory), (["d", "g.json"], .file 0o600 [1])]⟩ s ∧
      s.Finished ∧ s.temporaries = [] ∧
      s.tree.get? ["d", "g.json"] = some (.file readableMode [4, 5]) := by
  have hfirst : Reachable "d/g.json" [[2, 3], [4, 5]]
      ⟨[], [(["d"], .directory), (["d", "g.json"], .file 0o600 [1])]⟩ _ :=
    (Reachable.start.step
      (@Step.create _ _ _ 0 [2, 3] ["d"] _ ["d", "g.json"] "a" rfl rfl (by decide +kernel)
        (by decide +kernel) rfl (by decide +kernel) (by decide +kernel))).step
      (@Step.append _ _ _ 0 _ [2] [3] rfl)
  have hsecond := ((((hfirst.step
      (@Step.create _ _ _ 1 [4, 5] ["d"] _ ["d", "g.json"] "b" rfl rfl (by decide +kernel)
        (by decide +kernel) rfl (by decide +kernel) (by decide +kernel))).step
      (@Step.append _ _ _ 1 _ [4, 5] [] rfl)).step (.sync 1 rfl)).step (.publish 1 rfl)).step
      (@Step.rename _ _ _ 1 _ ["d", "g.json"] rfl (by decide +kernel))
  obtain ⟨s, hend, hstages, hrenamed⟩ : ∃ s, Reachable "d/g.json" [[2, 3], [4, 5]]
      ⟨[], [(["d"], .directory), (["d", "g.json"], .file 0o600 [1])]⟩ s ∧
      s.stages = [.ended false, .ended true] ∧ s.renamed = [1] :=
    ⟨_, (hsecond.step (.fail 0 rfl rfl)).step (.cleanUp 0 rfl), rfl, rfl⟩
  have hfinished : s.Finished := by simp [Finished, hstages]
  obtain ⟨-, -, hwhole⟩ := hend.target_whole
  obtain ⟨hnone, -, -, hlast⟩ := hwhole hfinished
  obtain ⟨l, c, hl, hc, hget, -⟩ := hlast 1 (by rw [hrenamed]; rfl)
  have htarget : FileTree.target? ⟨[], [(["d"], .directory), (["d", "g.json"], .file 0o600 [1])]⟩
      "d/g.json" = some ["d", "g.json"] := by decide +kernel
  obtain rfl := Option.some.inj (htarget.symm.trans hl)
  obtain rfl := Option.some.inj hc
  exact ⟨s, hend, hfinished, hnone, hget⟩

/-! ## One writer -/

theorem append_set (t : FileTree) (hl : l ≠ []) (mode : Nat) (found piece : List UInt8) :
    (t.set l (.file mode found)).append l piece = t.set l (.file mode (found ++ piece)) := by
  rw [FileTree.append, adjust_of_file (get?_set_self t hl _), set_set_self]

theorem setMode_set (t : FileTree) (hl : l ≠ []) (mode mode' : Nat) (found : List UInt8) :
    (t.set l (.file mode found)).setMode l mode' = t.set l (.file mode' found) := by
  rw [FileTree.setMode, adjust_of_file (get?_set_self t hl _), set_set_self]

theorem mem_parts_of_fileName? {name : String} (h : fileName? path = some name) :
    name ∈ parts path := by
  unfold fileName? at h
  split at h
  · rename_i last hlast
    split at h
    · cases h
    · cases h
      exact List.mem_of_mem_filter (List.mem_of_getLast? hlast)
  · cases h

/-- A writer can make a temporary file as `FileTree.replace` does, append its content in one piece,
and let everybody read it. -/
theorem Reachable.readable (h : Reachable path contents t s) (ha : s.stages[i]? = some .starting)
    (hc : contents[i]? = some content) {name : String} {directory : Location}
    (hname : fileName? path = some name) (hparent : s.tree.parent path = .ok directory) {tag : String}
    (hl : l = directory ++ [temporaryName tag]) (hfree : s.tree.get? l = none)
    (havoid : temporaryName tag ∉ parts path) :
    Reachable path contents t
      ⟨s.tree.set l (.file readableMode content), s.stages.set i (.readable l), s.renamed⟩ := by
  have hlt := (List.getElem?_eq_some_iff.mp ha).1
  have hne := ne_nil_of_get?_eq_none hfree
  have hown : l ≠ directory ++ [name] := by
    rw [hl]
    intro heq
    obtain rfl := List.singleton_inj.mp (List.append_inj' heq rfl).2
    exact havoid (mem_parts_of_fileName? hname)
  have htarget := target?_eq_some_iff.mpr ⟨name, directory, hname, hparent, rfl⟩
  have hmade : Reachable path contents t
      ⟨s.tree.set l (.file privateMode []), s.stages.set i (.appending l content), s.renamed⟩ :=
    h.step (.create i ha hc htarget hparent hl hown hfree)
  have hwritten : Reachable path contents t
      ⟨s.tree.set l (.file privateMode content), s.stages.set i (.appending l []), s.renamed⟩ := by
    simpa [append_set _ hne] using
      hmade.step (@Step.append _ _ _ i l content [] (by simp [hlt]))
  have hsynced : Reachable path contents t
      ⟨s.tree.set l (.file privateMode content), s.stages.set i (.synced l), s.renamed⟩ := by
    simpa using hwritten.step (.sync i (List.getElem?_set_self hlt))
  simpa [setMode_set _ hne] using hsynced.step (.publish i (List.getElem?_set_self hlt))

/-- `FileTree.replace` is what one writer does while the others wait. -/
theorem Reachable.replace (h : Reachable path contents t s) (ha : s.stages[i]? = some .starting)
    (hc : contents[i]? = some content) :
    ∃ s', Reachable path contents t s' ∧ s'.tree = (s.tree.replace path content).1 ∧
      s'.stages = s.stages.set i (.ended (s.tree.replace path content).2.isOk) := by
  have hlt := (List.getElem?_eq_some_iff.mp ha).1
  rw [replace_eq]
  cases hname : fileName? path with
  | none => exact ⟨_, h.step (.refuse i ha), rfl, rfl⟩
  | some name =>
    cases hdirectory : s.tree.temporaryDirectory path with
    | error fault => exact ⟨_, h.step (.refuse i ha), rfl, rfl⟩
    | ok directory =>
      have hparent := (temporaryDirectory_eq_ok_iff.mp hdirectory).1
      obtain ⟨tag, -, hfree, havoid⟩ := exists_freshLocation s.tree (parts path) directory
      have hne := ne_nil_of_get?_eq_none hfree
      have hreadable := h.readable ha hc hname hparent rfl hfree havoid
      have hset : (s.tree.set (directory ++ [temporaryName tag])
          (.file readableMode content)).renameTarget path = s.tree.renameTarget path :=
        renameTarget_set_of_not_mem havoid _
      cases hr : s.tree.renameTarget path with
      | error fault =>
        have hfailing := hreadable.step (.fail i (List.getElem?_set_self hlt) rfl)
        refine ⟨_, hfailing.step
          (.cleanUp i (l := directory ++ [temporaryName tag]) (by simp [hlt])), ?_, ?_⟩
        · exact erase_set_of_free hfree _
        · simp [Except.isOk, Except.toBool]
      | ok target =>
        refine ⟨_, hreadable.step (.rename i (List.getElem?_set_self hlt) (hset.trans hr)), ?_, ?_⟩
        · simp [move, get?_set_self _ hne, erase_set_of_free hfree]
        · simp [Except.isOk, Except.toBool]

end Writers

end StarSurvey
