import Mathlib.Data.List.Nodup
import Mathlib.Data.List.Perm.Subperm
import Mathlib.Tactic.Push
import Std.Data.String.ToNat
import StarSurvey.FileTree.Replace
import StarSurvey.Proofs.Partial

/-!
# A file is replaced in one step

- **Locations** (`get?_set_self`, `get?_set_of_ne`, `erase_set_of_free`, `get?_move`): what is put at
  a location is there, and nothing else changes.
- **The temporary file** (`exists_freshLocation`): its location is free, so removing it gives back the
  very tree that was there before, and no way of the path goes through its name.
- **Paths** (`walk_directoryText`): the directory in which the temporary file is made is the one in
  which the path asks for a name.
- **Replacing** (`replace_eq`, `replace_of_canReplace`, `replace_of_not_canReplace`): a path that can
  hold a file, and leaves room for the name of the temporary one, gets the new content, whole and with
  the mode everybody may read; any other path leaves the tree as it was. Which of the two it is does not
  depend on the content (`replace_snd_eq`).
-/

namespace StarSurvey.FileTree

variable {t t' : FileTree} {l k : Location} {n : Node} {path : String}

/-! ## Locations -/

theorem lookup_filter_of_ne (h : k ≠ l) (es : List (Location × Node)) :
    (es.filter fun e => e.1 != l).lookup k = es.lookup k := by
  induction es with
  | nil => rfl
  | cons e es ih =>
    obtain ⟨j, m⟩ := e
    by_cases hj : j = l
    · subst hj
      rw [List.filter_cons_of_neg (by simp), ih, List.lookup_cons, beq_false_of_ne h]
    · rw [List.filter_cons_of_pos (by simpa using hj), List.lookup_cons, List.lookup_cons, ih]

/-- What is taken out is gone. -/
theorem get?_erase_self (t : FileTree) (h : l ≠ []) : (t.erase l).get? l = none := by
  rw [get?, if_neg h, List.lookup_eq_none_iff]
  intro e he
  have hne : e.1 ≠ l := by simpa using (List.mem_filter.mp he).2
  simpa using hne.symm

/-- Everything else stays. -/
theorem get?_erase_of_ne (t : FileTree) (h : k ≠ l) : (t.erase l).get? k = t.get? k := by
  simp only [get?, erase, lookup_filter_of_ne h]

/-- What is put at a location is there. -/
theorem get?_set_self (t : FileTree) (h : l ≠ []) (n : Node) : (t.set l n).get? l = some n := by
  have hnone := get?_erase_self t h
  rw [get?, if_neg h] at hnone
  simp [get?, h, set, List.lookup_append, hnone]

/-- Nothing else changes. -/
theorem get?_set_of_ne (t : FileTree) (h : k ≠ l) (n : Node) : (t.set l n).get? k = t.get? k := by
  simp only [get?, set, erase, List.lookup_append, lookup_filter_of_ne h, List.lookup_cons,
    beq_false_of_ne h, List.lookup_nil, Option.or_none]

theorem erase_set_self (t : FileTree) (l : Location) (n : Node) :
    (t.set l n).erase l = t.erase l := by
  simp [set, erase, List.filter_append]

theorem set_set_self (t : FileTree) (l : Location) (n m : Node) :
    (t.set l n).set l m = t.set l m := by
  rw [set, erase_set_self]
  rfl

theorem ne_nil_of_get?_eq_none (h : t.get? l = none) : l ≠ [] := by
  rintro rfl
  cases h

theorem ne_nil_of_get?_eq_file {mode : Nat} {content : List UInt8}
    (h : t.get? l = some (.file mode content)) : l ≠ [] := by
  rintro rfl
  cases h

/-- What is moved is at its new place only. -/
theorem get?_move (h : t.get? k = some n) (hk : k ≠ []) (hl : l ≠ []) (j : Location) :
    (t.move k l).get? j = if j = l then some n else if j = k then none else t.get? j := by
  rw [move, h]
  by_cases hjl : j = l
  · rw [if_pos hjl, hjl, get?_set_self _ hl]
  · rw [if_neg hjl, get?_set_of_ne _ hjl]
    by_cases hjk : j = k
    · rw [if_pos hjk, hjk, get?_erase_self t hk]
    · rw [if_neg hjk, get?_erase_of_ne t hjk]

/-- What was put at a free location is taken out without a trace. -/
theorem erase_set_of_free (h : t.get? l = none) (n : Node) : (t.set l n).erase l = t := by
  have hl := ne_nil_of_get?_eq_none h
  rw [get?, if_neg hl, List.lookup_eq_none_iff] at h
  rw [erase_set_self, erase, List.filter_eq_self.mpr]
  intro e he
  have hne : l ≠ e.1 := by simpa using h e he
  simpa using hne.symm

/-! ## The temporary file -/

theorem temporaryName_injective :
    Function.Injective fun n : Nat => temporaryName (toString n) := by
  intro a b h
  have h' : toString a = toString b := by
    have := congrArg String.toList h
    simp only [temporaryName, String.toList_append, List.append_cancel_right_eq,
      List.append_cancel_left_eq] at this
    exact String.toList_inj.mp this
  exact Nat.repr_injective h'

/-- There is always a name for it: the numbered ones are more than the entries of the tree and the
names to avoid. -/
theorem exists_free_name (t : FileTree) (avoided : List String) (directory : Location) :
    ∃ n ∈ List.range (t.entries.length + avoided.length + 1),
      t.get? (directory ++ [temporaryName (toString n)]) = none ∧
        temporaryName (toString n) ∉ avoided := by
  by_contra hnone
  push Not at hnone
  let tried := (List.range (t.entries.length + avoided.length + 1)).map fun n =>
    temporaryName (toString n)
  let taken := (t.entries.map fun e => e.1.getLastD "") ++ avoided
  have hnodup : tried.Nodup := List.nodup_range.map temporaryName_injective
  have hsub : tried ⊆ taken := by
    intro name hname
    obtain ⟨n, hn, rfl⟩ := List.mem_map.mp hname
    by_contra hout
    rw [List.mem_append, not_or] at hout
    refine hout.2 (hnone n hn ?_)
    rw [get?, if_neg (by simp), List.lookup_eq_none_iff]
    intro e he
    rw [bne_iff_ne]
    rintro h
    refine hout.1 (List.mem_map.mpr ⟨e, he, ?_⟩)
    rw [← h, List.getLastD_concat]
  have hlen := (List.subperm_of_subset hnodup hsub).length_le
  simp only [tried, taken, List.length_append, List.length_map, List.length_range] at hlen
  omega

/-- Its location is free, and its name is none of those to avoid. -/
theorem exists_freshLocation (t : FileTree) (avoided : List String) (directory : Location) :
    ∃ tag, t.freshLocation avoided directory = directory ++ [temporaryName tag] ∧
      t.get? (directory ++ [temporaryName tag]) = none ∧ temporaryName tag ∉ avoided := by
  obtain ⟨n, hn, hfree, hown⟩ := exists_free_name t avoided directory
  unfold freshLocation
  cases hf : (List.range (t.entries.length + avoided.length + 1)).find? fun n =>
      (t.get? (directory ++ [temporaryName (toString n)])).isNone &&
        !avoided.contains (temporaryName (toString n)) with
  | none =>
    refine absurd ?_ (List.find?_eq_none.mp hf n hn)
    rw [Bool.and_eq_true, Option.isNone_iff_eq_none]
    exact ⟨hfree, by simpa using hown⟩
  | some j =>
    have := List.find?_some hf
    rw [Bool.and_eq_true, Option.isNone_iff_eq_none] at this
    exact ⟨_, rfl, this.1, by simpa using this.2⟩

/-! ## Directories -/

/-- Another tree has the directories of a tree, and the same working directory. -/
structure DirectoriesIn (t t' : FileTree) : Prop where
  workingDirectory : t'.workingDirectory = t.workingDirectory
  get? : ∀ l, t.get? l = some .directory → t'.get? l = some .directory

theorem DirectoriesIn.refl (t : FileTree) : DirectoriesIn t t := ⟨rfl, fun _ hl => hl⟩

/-- A file takes no directory away where there was none. -/
theorem directoriesIn_set_file (h : t.get? l ≠ some .directory) (mode : Nat)
    (content : List UInt8) : DirectoriesIn t (t.set l (.file mode content)) := by
  refine ⟨rfl, fun k hk => ?_⟩
  rwa [get?_set_of_ne t]
  rintro rfl
  exact h hk

/-- A file adds no directory. -/
theorem directoriesIn_of_set_file (t : FileTree) (l : Location) (mode : Nat)
    (content : List UInt8) : DirectoriesIn (t.set l (.file mode content)) t := by
  refine ⟨rfl, fun k hk => ?_⟩
  by_cases hkl : k = l
  · subst hkl
    by_cases hnil : k = []
    · rw [hnil]
      rfl
    · rw [get?_set_self t hnil] at hk
      cases hk
  · rwa [get?_set_of_ne t hkl] at hk

/-- All that one step of a way can do. -/
theorem stepInto_eq_ok_iff {name : String} :
    t.stepInto l name = .ok k ↔
      (name = "." ∧ k = l) ∨
      (name = ".." ∧ k = l.dropLast) ∨
      (name ≠ "." ∧ name ≠ ".." ∧ name.utf8ByteSize ≤ maxName ∧
        t.get? (l ++ [name]) = some .directory ∧ k = l ++ [name]) := by
  unfold FileTree.stepInto
  by_cases hdot : name = "."
  · simp [hdot, eq_comm]
  by_cases hup : name = ".."
  · simp [hup, eq_comm]
  by_cases hlong : maxName < name.utf8ByteSize
  · simp [hdot, hup, hlong, Nat.not_le.mpr hlong]
  rcases hg : t.get? (l ++ [name]) with _ | _ | _
  · simp [hdot, hup, hlong]
  · simp [hdot, hup, hlong, Nat.not_lt.mp hlong, eq_comm]
  · simp [hdot, hup, hlong]

theorem DirectoriesIn.stepInto (h : DirectoriesIn t t') {name : String}
    (hs : t.stepInto l name = .ok k) : t'.stepInto l name = .ok k := by
  rw [stepInto_eq_ok_iff] at hs ⊢
  rcases hs with hs | hs | ⟨hdot, hup, hshort, hd, hk⟩
  · exact .inl hs
  · exact .inr (.inl hs)
  · exact .inr (.inr ⟨hdot, hup, hshort, h.get? _ hd, hk⟩)

/-- A way leads to the same place wherever its directories are. -/
theorem DirectoriesIn.walk (h : DirectoriesIn t t') {way : List String}
    (hw : t.walk way l = .ok k) : t'.walk way l = .ok k := by
  unfold FileTree.walk at hw ⊢
  induction way generalizing l with
  | nil => exact hw
  | cons name way ih =>
    rw [List.foldlM_cons, bind_eq_ok_iff] at hw ⊢
    obtain ⟨j, hs, hw⟩ := hw
    exact ⟨j, h.stepInto hs, ih hw⟩

/-! ## Paths -/

/-- The parts of a path that is given by its characters. -/
def partsOf (cs : List Char) : List String := parts (String.ofList cs)

theorem parts_eq (path : String) : parts path = partsOf path.toList := by
  rw [partsOf, String.ofList_toList]

/-- A slash ends a part. -/
theorem partsOf_append_slash (as bs : List Char) :
    partsOf (as ++ '/' :: bs) = partsOf as ++ partsOf bs := by
  simp [partsOf, parts, Text.split, Text.splitAt_append_sep]

theorem partsOf_nil : partsOf [] = [] := by decide

theorem partsOf_of_not_mem {cs : List Char} (hne : cs ≠ []) (h : '/' ∉ cs) :
    partsOf cs = [String.ofList cs] := by
  simp [partsOf, parts, Text.split, Text.splitAt_of_not_mem h, hne]

theorem walk_append (t : FileTree) (v w : List String) (l : Location) :
    t.walk (v ++ w) l = t.walk v l >>= t.walk w := by
  unfold FileTree.walk
  rw [List.foldlM_append]

theorem walk_dot (t : FileTree) (l : Location) : t.walk ["."] l = .ok l := rfl

/-- A path, reversed, without what means nothing at its end, leads to the same place. -/
theorem walk_trimEnd (t : FileTree) (r : List Char) (l : Location) :
    t.walk (partsOf (trimEnd r).reverse) l = t.walk (partsOf r.reverse) l := by
  induction r using trimEnd.induct with
  | case1 => rfl
  | case2 cs hne ih =>
    rw [trimEnd, if_neg hne, ih, List.reverse_cons, partsOf_append_slash, partsOf_nil,
      List.append_nil]
  | case3 cs ih =>
    have hdot : partsOf ['.'] = ["."] := by decide
    rw [trimEnd, ih, List.reverse_cons, List.reverse_cons, List.reverse_cons, List.append_assoc,
      List.singleton_append, partsOf_append_slash, partsOf_append_slash, partsOf_nil,
      List.append_nil, hdot, walk_append]
    cases t.walk (partsOf cs.reverse) l with
    | error f => rfl
    | ok k => rfl
  | case4 cs hslash hdots => rw [trimEnd.eq_3 _ hslash hdots]

theorem trimEnd_suffix (r : List Char) : trimEnd r <:+ r := by
  induction r using trimEnd.induct with
  | case1 => exact List.suffix_refl _
  | case2 cs hne ih =>
    rw [trimEnd, if_neg hne]
    exact ih.trans (List.suffix_cons _ _)
  | case3 cs ih =>
    rw [trimEnd]
    exact ih.trans (List.suffix_cons _ _)
  | case4 cs hslash hdots =>
    exact ⟨[], by rw [trimEnd.eq_3 _ hslash hdots, List.nil_append]⟩

theorem trimEnd_ne_nil {r : List Char} (h : r ≠ []) : trimEnd r ≠ [] := by
  induction r using trimEnd.induct with
  | case1 => simp [trimEnd]
  | case2 cs hne ih =>
    rw [trimEnd, if_neg hne]
    exact ih hne
  | case3 cs ih =>
    rw [trimEnd]
    exact ih (by simp)
  | case4 cs hslash hdots =>
    rwa [trimEnd.eq_3 _ hslash hdots]

/-- Nothing is trimmed behind a name. -/
theorem trimEnd_append {b d : List Char} (hb : '/' ∉ b) (hne : b ≠ []) (hdot : b ≠ ['.']) :
    trimEnd (b ++ d) = b ++ d := by
  refine trimEnd.eq_3 _ ?_ ?_
  · intro cs h
    cases b with
    | nil => exact hne rfl
    | cons c b =>
      rw [List.cons_append, List.cons.injEq] at h
      exact hb (h.1 ▸ List.mem_cons_self)
  · intro cs h
    match b, hne with
    | [c], _ =>
      rw [List.cons_append, List.cons.injEq] at h
      exact hdot (by rw [h.1])
    | c :: e :: b, _ =>
      simp only [List.cons_append, List.cons.injEq] at h
      exact hb (by simp [h.2.1])

theorem start_eq_ok_iff :
    t.start path = .ok l ↔ '\x00' ∉ path.toList ∧ path.utf8ByteSize ≤ maxPath ∧ path.toList ≠ [] ∧
      l = if path.startsWith "/" then [] else t.workingDirectory := by
  unfold start
  have hempty : path.isEmpty ↔ path.toList = [] := by
    rw [String.isEmpty_iff, String.toList_eq_nil_iff]
  simp only [hempty, List.contains_iff_mem]
  by_cases hzero : '\x00' ∈ path.toList
  · rw [if_pos hzero]
    exact ⟨nofun, fun h => absurd hzero h.1⟩
  by_cases hlong : maxPath < path.utf8ByteSize
  · rw [if_neg hzero, if_pos hlong]
    exact ⟨nofun, fun h => absurd h.2.1 (Nat.not_le.mpr hlong)⟩
  by_cases hnil : path.toList = []
  · rw [if_neg hzero, if_neg hlong, if_pos hnil]
    exact ⟨nofun, fun h => absurd hnil h.2.2.1⟩
  · rw [if_neg hzero, if_neg hlong, if_neg hnil, Except.ok.injEq, eq_comm]
    exact ⟨fun h => ⟨hzero, Nat.not_lt.mp hlong, hnil, h⟩, fun h => h.2.2.2⟩

theorem DirectoriesIn.start (h : DirectoriesIn t t') : t'.start path = t.start path := by
  simp only [FileTree.start, h.workingDirectory]

theorem startsWith_slash_iff : path.startsWith "/" ↔ ['/'] <+: path.toList :=
  String.startsWith_string_iff

/-- A beginning of a path begins where the path does. -/
theorem start_of_initial {p : List Char} (hs : t.start path = .ok l) (hp : p <+: path.toList)
    (hne : p ≠ []) : t.start (String.ofList p) = .ok l := by
  rw [start_eq_ok_iff] at hs ⊢
  obtain ⟨hzero, hshort, -, hl⟩ := hs
  obtain ⟨q, hq⟩ := hp
  have hpath : path = String.ofList p ++ String.ofList q := by
    rw [← String.ofList_append, hq, String.ofList_toList]
  have hroot : (String.ofList p).startsWith "/" = path.startsWith "/" := by
    rw [Bool.eq_iff_iff, startsWith_slash_iff, startsWith_slash_iff, String.toList_ofList, ← hq]
    obtain ⟨c, cs, rfl⟩ := List.exists_cons_of_ne_nil hne
    simp [List.cons_prefix_cons]
  have hsize : (String.ofList p).utf8ByteSize ≤ path.utf8ByteSize := by
    rw [hpath, String.utf8ByteSize_append]
    exact Nat.le_add_right _ _
  refine ⟨?_, Nat.le_trans hsize hshort, ?_, hl.trans (by rw [hroot])⟩
  · rw [String.toList_ofList]
    exact fun h => hzero (hq ▸ List.mem_append_left _ h)
  · rwa [String.toList_ofList]

/-- What is done with the directory and the last name of a path, behind the way to it. -/
def atName {β : Type} (t : FileTree) (path : String) (atEnd : Location → Except FileFault β)
    (f : Location → String → Except FileFault β) : Except FileFault β := do
  let origin ← t.start path
  match (parts path).getLast? with
  | none => atEnd origin
  | some last => do f (← t.walk (parts path).dropLast origin) last

/-- The last name is reached by a way through directories. -/
theorem atName_eq_ok_iff {β : Type} {atEnd : Location → Except FileFault β}
    {f : Location → String → Except FileFault β} {b : β} (hend : ∀ origin, atEnd origin ≠ .ok b) :
    t.atName path atEnd f = .ok b ↔ ∃ origin way last directory, t.start path = .ok origin ∧
      parts path = way ++ [last] ∧ t.walk way origin = .ok directory ∧ f directory last = .ok b := by
  unfold atName
  rw [bind_eq_ok_iff]
  constructor
  · rintro ⟨origin, hs, h⟩
    rcases List.eq_nil_or_concat (parts path) with hp | ⟨way, last, hp⟩
    · rw [hp] at h
      exact absurd h (hend origin)
    · rw [List.concat_eq_append] at hp
      simp only [hp, List.getLast?_concat, List.dropLast_concat, bind_eq_ok_iff] at h
      obtain ⟨directory, hw, h⟩ := h
      exact ⟨origin, way, last, directory, hs, hp, hw, h⟩
  · rintro ⟨origin, way, last, directory, hs, hp, hw, h⟩
    refine ⟨origin, hs, ?_⟩
    simp only [hp, List.getLast?_concat, List.dropLast_concat, bind_eq_ok_iff]
    exact ⟨directory, hw, h⟩

theorem locate_eq_atName : t.locate path = t.atName path (fun origin => .ok (origin, none))
    fun directory last => do
      if last = "." ∨ last = ".." then return (← t.stepInto directory last, none)
      else return (directory, some last) := rfl

/-- A path that asks for a name: the way to a directory, then the name. -/
theorem locate_eq_ok_some_iff {name : String} :
    t.locate path = .ok (l, some name) ↔
      ∃ origin way, t.start path = .ok origin ∧ parts path = way ++ [name] ∧ name ≠ "." ∧
        name ≠ ".." ∧ t.walk way origin = .ok l := by
  have hend : ∀ origin : Location,
      (.ok (origin, none) : Except FileFault (Location × Option String)) ≠ .ok (l, some name) :=
    fun _ h => nomatch h
  rw [locate_eq_atName, atName_eq_ok_iff hend]
  constructor
  · rintro ⟨origin, way, last, directory, hs, hp, hw, h⟩
    split at h
    · obtain ⟨k, -, hk⟩ := bind_eq_ok_iff.mp h
      cases hk
    · rename_i hdots
      cases h
      rw [not_or] at hdots
      exact ⟨origin, way, hs, hp, hdots.1, hdots.2, hw⟩
  · rintro ⟨origin, way, hs, hp, hdot, hup, hw⟩
    refine ⟨origin, way, name, l, hs, hp, hw, ?_⟩
    rw [if_neg (not_or.mpr ⟨hdot, hup⟩)]
    rfl

/-- A path can hold a file at a location: the way to it goes through directories, and it ends in a
name, not too long, that no directory has. -/
def CanHold (t : FileTree) (path : String) (l : Location) : Prop :=
  ∃ directory name, t.locate path = .ok (directory, some name) ∧ name.utf8ByteSize ≤ maxName ∧
    ¬ path.endsWith "/" ∧ t.get? (directory ++ [name]) ≠ some .directory ∧
    l = directory ++ [name]

theorem CanHold.ne_nil (h : CanHold t path l) : l ≠ [] := by
  obtain ⟨directory, name, -, -, -, -, rfl⟩ := h
  exact List.concat_ne_nil _ _

theorem renameTarget_eq_atName : t.renameTarget path = t.atName path (fun _ => .error .busy)
    fun directory last =>
      if last = "." ∨ last = ".." then .error .busy
      else if maxName < last.utf8ByteSize then .error .nameTooLong
      else if path.endsWith "/" then .error .notDirectory
      else match t.get? (directory ++ [last]) with
        | some .directory => .error .isDirectory
        | _ => .ok (directory ++ [last]) := rfl

/-- A rename works to the paths that can hold a file. -/
theorem renameTarget_eq_ok_iff : t.renameTarget path = .ok l ↔ CanHold t path l := by
  have hend : (.error .busy : Except FileFault Location) ≠ .ok l := fun h => nomatch h
  rw [renameTarget_eq_atName, atName_eq_ok_iff fun _ => hend]
  constructor
  · rintro ⟨origin, way, last, directory, hs, hp, hw, h⟩
    split_ifs at h with hdots hlong hslash
    rw [not_or] at hdots
    split at h
    · cases h
    · rename_i hd
      cases h
      exact ⟨directory, last,
        locate_eq_ok_some_iff.mpr ⟨origin, way, hs, hp, hdots.1, hdots.2, hw⟩,
        Nat.not_lt.mp hlong, hslash, hd, rfl⟩
  · rintro ⟨directory, name, hl, hshort, hslash, hd, rfl⟩
    obtain ⟨origin, way, hs, hp, hdot, hup, hw⟩ := locate_eq_ok_some_iff.mp hl
    refine ⟨origin, way, name, directory, hs, hp, hw, ?_⟩
    rw [if_neg (not_or.mpr ⟨hdot, hup⟩), if_neg (Nat.not_lt.mpr hshort), if_neg hslash]
    split
    · rename_i hd'
      exact absurd hd' hd
    · rfl

theorem DirectoriesIn.locate (h : DirectoriesIn t t') {name : String}
    (hl : t.locate path = .ok (l, some name)) : t'.locate path = .ok (l, some name) := by
  rw [locate_eq_ok_some_iff] at hl ⊢
  obtain ⟨origin, way, hs, hp, hdot, hup, hw⟩ := hl
  exact ⟨origin, way, h.start.trans hs, hp, hdot, hup, h.walk hw⟩

/-- With the same directories the same paths can hold files. -/
theorem DirectoriesIn.canHold (h : DirectoriesIn t t') (h' : DirectoriesIn t' t)
    (hc : CanHold t path l) : CanHold t' path l := by
  obtain ⟨directory, name, hl, hshort, hslash, hd, rfl⟩ := hc
  exact ⟨directory, name, h.locate hl, hshort, hslash, fun hd' => hd (h'.get? _ hd'), rfl⟩

theorem dropWhile_of_not_mem {b : List Char} (h : '/' ∉ b) (d : List Char) :
    (b ++ d).dropWhile (· ≠ '/') = d.dropWhile (· ≠ '/') := by
  refine List.dropWhile_append_of_pos fun c hc => ?_
  simpa using fun he : c = '/' => h (he ▸ hc)

/-- Without a slash a path asks for a name in the working directory. -/
theorem directoryText_of_not_mem (hne : path.toList ≠ []) (hdot : path ≠ ".")
    (h : '/' ∉ path.toList) : directoryText path = "." := by
  have hr : trimEnd path.toList.reverse = path.toList.reverse := by
    rw [← List.append_nil path.toList.reverse]
    refine trimEnd_append (by simpa using h) (by simpa using hne) fun he => hdot ?_
    rw [← String.toList_inj, ← List.reverse_inj, he]
    rfl
  have hd : path.toList.reverse.dropWhile (· ≠ '/') = [] := by
    rw [← List.append_nil path.toList.reverse]
    exact dropWhile_of_not_mem (by simpa using h) []
  simp only [directoryText, hr, hd, trimEnd, List.isEmpty_nil, if_true]

/-- With a slash it asks for one in the directory in front of the last slash. -/
theorem directoryText_of_slash {as bs : List Char} (h : path.toList = as ++ '/' :: bs)
    (hbs : '/' ∉ bs) (hne : bs ≠ []) (hdot : bs ≠ ['.']) :
    directoryText path = String.ofList (trimEnd ('/' :: as.reverse)).reverse := by
  have hrev : path.toList.reverse = bs.reverse ++ '/' :: as.reverse := by simp [h]
  have hbr : '/' ∉ bs.reverse := by simpa using hbs
  have hr : trimEnd path.toList.reverse = path.toList.reverse := by
    rw [hrev]
    refine trimEnd_append hbr (by simpa using hne) fun he => hdot ?_
    rw [← List.reverse_inj, he]
    rfl
  have hd : path.toList.reverse.dropWhile (· ≠ '/') = '/' :: as.reverse := by
    rw [hrev, dropWhile_of_not_mem hbr, List.dropWhile_cons_of_neg (by simp)]
  have hempty : (trimEnd ('/' :: as.reverse)).isEmpty = false := by
    simpa using trimEnd_ne_nil (List.cons_ne_nil '/' as.reverse)
  simp only [directoryText, hr, hd, hempty, Bool.false_eq_true, if_false]

/-- The directory in which the temporary file is made is the one in which the path asks for a
name. -/
theorem walk_directoryText {origin : Location} {way : List String} {name : String}
    (hs : t.start path = .ok origin) (hp : parts path = way ++ [name]) (hdot : name ≠ ".")
    (hslash : ¬ path.endsWith "/") :
    t.start (directoryText path) = .ok origin ∧
      t.walk (parts (directoryText path)) origin = t.walk way origin := by
  obtain ⟨-, -, hne, horigin⟩ := start_eq_ok_iff.mp hs
  by_cases hmem : '/' ∈ path.toList
  · obtain ⟨b, a, hrev, hb⟩ := List.eq_append_cons_of_mem (List.mem_reverse.mpr hmem)
    have hcs : path.toList = a.reverse ++ '/' :: b.reverse := by
      rw [← List.reverse_inj, hrev]
      simp
    have hbne : b.reverse ≠ [] := by
      intro hnil
      refine hslash ?_
      rw [String.endsWith, String.Slice.endsWith_string_iff, String.copy_toSlice, hcs, hnil]
      exact List.suffix_append _ _
    have hbs : '/' ∉ b.reverse := by simpa using hb
    rw [parts_eq, hcs, partsOf_append_slash, partsOf_of_not_mem hbne hbs] at hp
    obtain ⟨hway, hname⟩ := List.append_inj' hp rfl
    have hbdot : b.reverse ≠ ['.'] := by
      intro he
      rw [he] at hname
      exact hdot (List.singleton_inj.mp hname).symm
    rw [directoryText_of_slash hcs hbs hbne hbdot, List.reverse_reverse]
    refine ⟨start_of_initial hs ?_ ?_, ?_⟩
    · -- what is trimmed is the path up to its last slash
      have htrimmed : (trimEnd ('/' :: a)).reverse <+: a.reverse ++ ['/'] := by
        rw [← List.reverse_suffix, List.reverse_reverse]
        simpa using trimEnd_suffix ('/' :: a)
      exact htrimmed.trans ⟨b.reverse, by simp [hcs]⟩
    · rw [Ne, List.reverse_eq_nil_iff]
      exact trimEnd_ne_nil (List.cons_ne_nil _ _)
    · rw [← partsOf, walk_trimEnd, List.reverse_cons, partsOf_append_slash, partsOf_nil,
        List.append_nil, hway]
  · rw [parts_eq, partsOf_of_not_mem hne hmem, String.ofList_toList] at hp
    obtain ⟨hway, hname⟩ : [] = way ∧ [path] = [name] := List.append_inj' hp rfl
    obtain rfl := List.singleton_inj.mp hname
    have hroot : ¬ path.startsWith "/" := fun h =>
      hmem ((startsWith_slash_iff.mp h).subset List.mem_cons_self)
    have hdot' : ¬ ".".startsWith "/" := by
      rw [startsWith_slash_iff]
      decide
    rw [if_neg hroot] at horigin
    rw [directoryText_of_not_mem hne hdot hmem, ← hway]
    refine ⟨start_eq_ok_iff.mpr ⟨by decide, by decide, by decide, ?_⟩, walk_dot t origin⟩
    rw [if_neg hdot', horigin]

/-! ## The target -/

theorem fileName?_of_parts {way : List String} {name : String} (hp : parts path = way ++ [name])
    (hdot : name ≠ ".") (hup : name ≠ "..") : fileName? path = some name := by
  have hlast : ((parts path).filter fun p => p != ".").getLast? = some name := by
    rw [hp, List.filter_append, List.filter_cons_of_pos (by simpa using hdot), List.filter_nil,
      List.getLast?_concat]
  simp only [fileName?, hlast, if_neg hup]

theorem parent_eq_ok_iff :
    t.parent path = .ok l ↔ ∃ origin, t.start (directoryText path) = .ok origin ∧
      t.walk (parts (directoryText path)) origin = .ok l :=
  bind_eq_ok_iff

/-- The temporary file is made in the directory of the file of the path, if its own path is not too
long. -/
theorem temporaryDirectory_eq_ok_iff :
    t.temporaryDirectory path = .ok l ↔ t.parent path = .ok l ∧ t.temporaryFits path = true := by
  unfold temporaryDirectory parent
  cases t.start (directoryText path) with
  | error fault => simp [bind, Except.bind]
  | ok origin =>
    cases t.temporaryFits path <;>
      simp [bind, Except.bind, throw, throwThe, MonadExceptOf.throw]

/-- A path that can hold a file asks for a name, and the directory of it is there. -/
theorem CanHold.parent (h : CanHold t path l) :
    ∃ name directory, fileName? path = some name ∧ t.parent path = .ok directory ∧
      l = directory ++ [name] := by
  obtain ⟨directory, name, hl, -, hslash, -, rfl⟩ := h
  obtain ⟨origin, way, hs, hp, hdot, hup, hw⟩ := locate_eq_ok_some_iff.mp hl
  obtain ⟨hstart, hwalk⟩ := walk_directoryText hs hp hdot hslash
  exact ⟨name, directory, fileName?_of_parts hp hdot hup,
    parent_eq_ok_iff.mpr ⟨origin, hstart, hwalk.trans hw⟩, rfl⟩

section NotMem

variable {directory : Location} {name : String}

theorem stepInto_set_of_ne {other : String} (h : other ≠ name) (n : Node) (l : Location) :
    (t.set (directory ++ [name]) n).stepInto l other = t.stepInto l other := by
  have hne : l ++ [other] ≠ directory ++ [name] := by
    intro heq
    exact h (List.singleton_inj.mp (List.append_inj' heq rfl).2)
  simp only [stepInto, get?_set_of_ne t hne]

/-- What is put under a name that a way does not go through does not change where it leads. -/
theorem walk_set_of_not_mem {way : List String} (h : name ∉ way) (n : Node) (l : Location) :
    (t.set (directory ++ [name]) n).walk way l = t.walk way l := by
  unfold walk
  induction way generalizing l with
  | nil => rfl
  | cons first way ih =>
    rw [List.mem_cons, not_or] at h
    rw [List.foldlM_cons, List.foldlM_cons, stepInto_set_of_ne (Ne.symm h.1) n l]
    exact bind_congr fun k => ih h.2 k

theorem renameTarget_set_of_not_mem (h : name ∉ parts path) (n : Node) :
    (t.set (directory ++ [name]) n).renameTarget path = t.renameTarget path := by
  unfold renameTarget
  refine bind_congr fun origin => ?_
  cases hlast : (parts path).getLast? with
  | none => rfl
  | some last =>
    have hway : name ∉ (parts path).dropLast := fun hmem => h (List.dropLast_subset _ hmem)
    simp only [walk_set_of_not_mem hway]
    refine bind_congr fun k => ?_
    have hne : k ++ [last] ≠ directory ++ [name] := by
      intro heq
      obtain rfl := List.singleton_inj.mp (List.append_inj' heq rfl).2
      exact h (List.mem_of_getLast? hlast)
    rw [get?_set_of_ne t hne]

end NotMem

/-! ## Replacing -/

/-- A file can be put at a location by way of a temporary file: the path can hold it, and the path of
the temporary file is not too long. -/
structure CanReplace (t : FileTree) (path : String) (l : Location) : Prop where
  canHold : CanHold t path l
  temporaryFits : t.temporaryFits path = true

/-- Of the temporary file no trace is left: all hangs on the tree and on the path. -/
theorem replace_eq (t : FileTree) (path : String) (content : List UInt8) :
    t.replace path content =
      if (fileName? path).isNone then (t, .error .noFileName)
      else match t.temporaryDirectory path with
        | .error fault => (t, .error (.temporary fault (directoryText path)))
        | .ok _ => match t.renameTarget path with
          | .error fault => (t, .error (.rename fault))
          | .ok target => (t.set target (.file readableMode content), .ok ()) := by
  unfold replace
  split
  · rfl
  · cases t.temporaryDirectory path with
    | error fault => rfl
    | ok directory =>
      obtain ⟨tag, htag, hfree, hown⟩ := exists_freshLocation t (parts path) directory
      have hne := ne_nil_of_get?_eq_none hfree
      simp only [htag, set_set_self, renameTarget_set_of_not_mem hown]
      cases t.renameTarget path with
      | error fault => simp only [erase_set_of_free hfree]
      | ok target => simp only [move, get?_set_self t hne, erase_set_of_free hfree]

/-- A path at which a file can be replaced gets it, and nothing else changes. -/
theorem replace_of_canReplace (h : CanReplace t path l) (content : List UInt8) :
    t.replace path content = (t.set l (.file readableMode content), .ok ()) := by
  obtain ⟨name, directory, hname, hparent, -⟩ := h.canHold.parent
  have htemporary := temporaryDirectory_eq_ok_iff.mpr ⟨hparent, h.temporaryFits⟩
  simp [replace_eq, hname, htemporary, renameTarget_eq_ok_iff.mpr h.canHold]

/-- What a fault says about a tree and a path. -/
def Hinders (t : FileTree) (path : String) : ReplaceFault → Prop
  | .noFileName => fileName? path = none
  | .temporary fault directory =>
    fileName? path ≠ none ∧ directory = directoryText path ∧ t.temporaryDirectory path = .error fault
  | .rename fault =>
    fileName? path ≠ none ∧ (∃ directory, t.temporaryDirectory path = .ok directory) ∧
      t.renameTarget path = .error fault

/-- At any other path something hinders it. -/
theorem exists_hinders (h : ¬ ∃ l, CanReplace t path l) (content : List UInt8) :
    ∃ fault, t.Hinders path fault ∧ t.replace path content = (t, .error fault) := by
  rw [replace_eq]
  cases hname : fileName? path with
  | none => exact ⟨.noFileName, hname, rfl⟩
  | some name =>
    have hne : fileName? path ≠ none := by simp [hname]
    cases hdirectory : t.temporaryDirectory path with
    | error fault => exact ⟨.temporary fault (directoryText path), ⟨hne, rfl, hdirectory⟩, rfl⟩
    | ok directory =>
      cases hr : t.renameTarget path with
      | error fault => exact ⟨.rename fault, ⟨hne, ⟨directory, hdirectory⟩, hr⟩, rfl⟩
      | ok l =>
        have hfits := (temporaryDirectory_eq_ok_iff.mp hdirectory).2
        exact absurd ⟨l, renameTarget_eq_ok_iff.mp hr, hfits⟩ h

/-- Any other path leaves the tree as it was. -/
theorem replace_of_not_canReplace (h : ¬ ∃ l, CanReplace t path l) (content : List UInt8) :
    ∃ fault, t.replace path content = (t, .error fault) := by
  obtain ⟨fault, -, hr⟩ := exists_hinders h content
  exact ⟨fault, hr⟩

/-- A path that can hold a file leads to it once it is there. -/
theorem find_set_of_canHold (h : CanHold t path l) (mode : Nat) (content : List UInt8) :
    (t.set l (.file mode content)).find path = .ok (.file mode content) := by
  obtain ⟨directory, name, hl, hshort, hslash, hd, rfl⟩ := h
  have hl' := (directoriesIn_set_file hd mode content).locate hl
  simp only [find, hl', bind, Except.bind, if_neg (Nat.not_lt.mpr hshort), pure, Except.pure,
    get?_set_self t (List.concat_ne_nil _ _)]
  rw [if_neg hslash]

/-- Whether a file is replaced, and if not why, does not depend on its new content. -/
theorem replace_snd_eq (t : FileTree) (path : String) (c d : List UInt8) :
    (t.replace path c).2 = (t.replace path d).2 := by
  rw [replace_eq, replace_eq]
  split
  · rfl
  · split
    · rfl
    · split <;> rfl

end StarSurvey.FileTree
