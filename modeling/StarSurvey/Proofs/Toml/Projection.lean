import StarSurvey.Proofs.Toml.Keys

/-!
# One key of a document

Every statement is about one key of the root table, the first of its path.

- **Entries** (`Entries.only`): the entries of one key, and what changes of a table do to them.
- **Statements** (`actsOn_change`): a statement changes the key that it is about in a way that hangs on
  this key alone, and it changes no other.
- **Documents** (`Entries.only_ofStatements?`): so the statements about a key, in their order, make of it
  what all of them do, and the others have no part in it (`Entries.get?_eq_of_about_eq`).
-/

namespace StarSurvey.Toml

/-! ## Entries -/

namespace Entries

variable {es : Entries} {k k' : String} {v : Value}

/-- The entries of one key. -/
def only (es : Entries) (k : String) : Entries := es.filter fun e => e.1 == k

@[simp] theorem get?_only (es : Entries) (k : String) : (es.only k).get? k = es.get? k := by
  induction es with
  | nil => rfl
  | cons e es ih =>
    obtain ⟨l, v⟩ := e
    by_cases h : k = l
    · subst h
      simp [only, get?_cons]
    · have hne : (l == k) = false := by simpa using Ne.symm h
      rw [get?_cons, if_neg h, ← ih]
      simp [only, hne]

/-- A key whose value is replaced stays the same key. -/
@[simp] theorem fst_replaced (e : String × Value) : (if e.1 = k then (k, v) else e).1 = e.1 := by
  by_cases h : e.1 = k <;> simp [h]

theorem only_put_self (es : Entries) (k : String) (v : Value) :
    (es.put k v).only k = (es.only k).put k v := by
  have hany : (es.only k).any (fun e => e.1 == k) = es.any fun e => e.1 == k := by
    simp [only, List.any_filter]
  unfold put
  rw [hany]
  split_ifs
  · rw [only, List.filter_map]
    congr 1
    exact List.filter_congr fun e _ => by simp
  · simp [only]

theorem only_put_of_ne (h : k' ≠ k) (es : Entries) (v : Value) :
    (es.put k v).only k' = es.only k' := by
  unfold put
  split_ifs
  · rw [only, List.filter_map]
    have hkey : es.filter ((fun e => e.1 == k') ∘ fun e => if e.1 == k then (k, v) else e) =
        es.only k' := List.filter_congr fun e _ => by simp
    rw [hkey]
    refine (List.map_congr_left fun e he => ?_).trans (List.map_id _)
    have hne : e.1 ≠ k := by
      have hk' : e.1 = k' := by simpa [only] using (List.mem_filter.mp he).2
      exact hk' ▸ h
    simp [hne]
  · simp [only, Ne.symm h]

theorem only_erase_self (es : Entries) (k : String) : (es.erase k).only k = (es.only k).erase k := by
  simp only [only, erase, List.filter_filter]
  exact List.filter_congr fun e _ => Bool.and_comm _ _

theorem only_erase_of_ne (h : k' ≠ k) (es : Entries) : (es.erase k).only k' = es.only k' := by
  simp only [only, erase, List.filter_filter]
  refine List.filter_congr fun e _ => ?_
  by_cases he : e.1 = k' <;> simp [he, h]

end Entries

/-! ## Statements -/

/-- A change of a table that depends on one key and changes no other. -/
structure ActsOn (k : String) (f : Entries → Option Entries) : Prop where
  only_self : ∀ es, f (es.only k) = (f es).map (·.only k)
  only_of_ne : ∀ es es' k', k' ≠ k → f es = some es' → es'.only k' = es.only k'

/-- What is put behind a key hangs on what that key has. -/
theorem ActsOn.of_put {k : String} {f : Entries → Option Entries}
    (put? : Option Value → Option Value) (h : ∀ es, f es = (put? (es.get? k)).map (es.put k)) : ActsOn k f where
  only_self es := by
    rw [h, h, Entries.get?_only, Option.map_map]
    cases put? (es.get? k) with
    | none => rfl
    | some v => simp [Entries.only_put_self]
  only_of_ne es es' k' hne hes := by
    rw [h] at hes
    obtain ⟨v, -, rfl⟩ := Option.map_eq_some_iff.mp hes
    exact Entries.only_put_of_ne hne es v

theorem actsOn_addNew (k : String) (v : Value) : ActsOn k (addNew k v) := by
  refine .of_put (fun found => if found.isSome then none else some v) fun es => ?_
  unfold addNew
  split_ifs <;> rfl

/-- What one more element makes of the value behind its key. -/
def withElement? : Option Value → Option Value
  | none => some (.tables [[]])
  | some (.tables elements) => some (.tables (elements ++ [[]]))
  | some _ => none

theorem actsOn_extend (k : String) : ActsOn k (extend k) := by
  refine .of_put withElement? fun es => ?_
  unfold extend withElement?
  split <;> simp_all

/-- A table that was implied moves to the end; of one key alone nothing can be seen of that. -/
theorem actsOn_define (k : String) : ActsOn k (define k) where
  only_self es := by
    unfold define
    rw [Entries.get?_only]
    split
    · simp [Entries.only_put_self]
    · simp [Entries.only_put_self, Entries.only_erase_self]
    · rfl
  only_of_ne es es' k' hne hes := by
    unfold define at hes
    split at hes
    · cases hes
      exact Entries.only_put_of_ne hne es _
    · cases hes
      rw [Entries.only_put_of_ne hne, Entries.only_erase_of_ne hne]
    · cases hes

/-- What a path of headers makes of the value behind its first key, by a change behind that key. -/
def underHeader? (along : Entries → Option Entries) : Option Value → Option Value
  | none => (along []).map (.table .implied)
  | some (.table .closed _) => none
  | some (.table origin sub) => (along sub).map (.table origin)
  | some (.tables elements) => elements.getLast?.bind fun last =>
      (along last).map fun last' => .tables (elements.dropLast ++ [last'])
  | some _ => none

/-- A path changes the value of its first key, whatever is changed at its end. -/
theorem actsOn_alongHeaders {k : String} {f : Entries → Option Entries} (hf : ActsOn k f)
    (path : List String) : ActsOn (path.headD k) (alongHeaders f path) := by
  cases path with
  | nil => exact hf
  | cons k' ks =>
    refine .of_put (underHeader? (alongHeaders f ks)) fun es => ?_
    rw [alongHeaders, List.headD_cons]
    generalize es.get? k' = found
    cases found with
    | none => simp [underHeader?, Option.map_eq_bind, Option.bind_assoc]
    | some v =>
      cases v with
      | table origin sub => cases origin <;> simp [underHeader?, Option.map_eq_bind, Option.bind_assoc]
      | tables elements => simp [underHeader?, Option.map_eq_bind, Option.bind_assoc]
      | _ => rfl

/-- What a dotted path makes of the value behind its first key, by a change behind that key, which is
told how the table there began. -/
def underDot? (along : Origin → Entries → Option Entries) : Option Value → Option Value
  | none => (along .dotted []).map (.table .dotted)
  | some (.table .defined _) | some (.table .closed _) => none
  | some (.table origin sub) => (along origin sub).map (.table origin)
  | some (.tables elements) => elements.getLast?.bind fun last =>
      (along .defined last).map fun last' => .tables (elements.dropLast ++ [last'])
  | some _ => none

theorem actsOn_alongDots {k : String} {f : Entries → Option Entries} (hf : ActsOn k f)
    (origin : Origin) (dotted : Bool) (path : List String) :
    ActsOn (path.headD k) (alongDots f origin dotted path) := by
  cases path with
  | nil =>
    by_cases h : (dotted = true) = (origin = .dotted)
    · have hf' : alongDots f origin dotted [] = f := by
        funext es
        rw [alongDots, if_pos h]
      rw [hf']
      exact hf
    · refine .of_put (fun _ => none) fun es => ?_
      rw [alongDots, if_neg h]
      rfl
  | cons k' ks =>
    refine .of_put (underDot? fun origin => alongDots f origin dotted ks) fun es => ?_
    rw [alongDots, List.headD_cons]
    generalize es.get? k' = found
    cases found with
    | none => simp [underDot?, Option.map_eq_bind, Option.bind_assoc]
    | some v =>
      cases v with
      | table origin sub => cases origin <;> simp [underDot?, Option.map_eq_bind, Option.bind_assoc]
      | tables elements => simp [underDot?, Option.map_eq_bind, Option.bind_assoc]
      | _ => rfl

theorem actsOn_assign (path : List String) (k : String) (v : Value) :
    ActsOn (path.headD k) (assign path k v) :=
  actsOn_alongDots (actsOn_addNew k v) _ _ path

/-! ## Documents -/

/-- A statement together with the path of the last header in front of it. -/
abbrev Located := List String × Statement

namespace Located

/-- The path of the last header behind a statement. -/
def current : Located → List String
  | (_, .header path key) | (_, .arrayHeader path key) => path ++ [key]
  | (above, .assign ..) => above

/-- The key of the root table that a statement is about. -/
def target : Located → String
  | (_, .header path key) | (_, .arrayHeader path key) => path.headD key
  | (above, .assign path key _) => above.headD (path.headD key)

/-- What a statement makes of the root table. -/
def change : Located → Entries → Option Entries
  | (_, .header path key) => alongHeaders (define key) path
  | (_, .arrayHeader path key) => alongHeaders (extend key) path
  | (above, .assign path key v) => alongHeaders (assign path key v) above

theorem actsOn_change (c : Located) : ActsOn c.target c.change := by
  obtain ⟨above, s⟩ := c
  cases s with
  | header path key => exact actsOn_alongHeaders (actsOn_define key) path
  | arrayHeader path key => exact actsOn_alongHeaders (actsOn_extend key) path
  | assign path key v => exact actsOn_alongHeaders (actsOn_assign path key v) above

theorem step_eq (b : Building) (s : Statement) :
    b.step s = (change (b.current, s) b.root).map (⟨·, current (b.current, s)⟩) := by
  cases s <;> exact Option.map_eq_bind.symm

end Located

/-- The statements of a document behind a header, each with the last header in front of it. -/
def located : (above : List String) → List Statement → List Located
  | _, [] => []
  | above, s :: ss => (above, s) :: located (Located.current (above, s)) ss

/-- The statements of a document that are about a key of the root table. -/
def about (key : String) (ss : List Statement) : List Located :=
  (located [] ss).filter (·.target = key)

namespace Entries

theorem ofStatements?_eq (ss : List Statement) :
    ofStatements? ss = (located [] ss).foldlM (fun es c => c.change es) [] := by
  have hsteps (ss : List Statement) (b : Building) : (ss.foldlM Building.step b).map (·.root) =
      (located b.current ss).foldlM (fun es c => c.change es) b.root := by
    induction ss generalizing b with
    | nil => rfl
    | cons s ss ih =>
      rw [List.foldlM_cons, located, List.foldlM_cons, Located.step_eq]
      cases Located.change (b.current, s) b.root with
      | none => rfl
      | some root => exact ih ⟨root, _⟩
  exact hsteps ss ⟨[], []⟩

/-- The changes of one key stay what they are without the changes of the others. -/
theorem only_foldlM {cs : List Located} {es es' : Entries} (key : String)
    (h : cs.foldlM (fun es c => c.change es) es = some es') :
    (cs.filter (·.target = key)).foldlM (fun es c => c.change es) (es.only key) =
      some (es'.only key) := by
  induction cs generalizing es with
  | nil =>
    cases h
    rfl
  | cons c cs ih =>
    rw [List.foldlM_cons] at h
    obtain ⟨es₁, hc, h⟩ := Option.bind_eq_some_iff.mp h
    by_cases hkey : c.target = key
    · subst hkey
      have hself : c.change (es.only c.target) = some (es₁.only c.target) := by
        rw [(Located.actsOn_change c).only_self, hc]
        rfl
      rw [List.filter_cons_of_pos (by simp), List.foldlM_cons, hself]
      exact ih h
    · rw [List.filter_cons_of_neg (by simpa using hkey),
        ← (Located.actsOn_change c).only_of_ne es es₁ key (Ne.symm hkey) hc]
      exact ih h

/-- The statements about a key make its entries by themselves. -/
theorem only_ofStatements? {ss : List Statement} {es : Entries} (h : ofStatements? ss = some es)
    (key : String) : (about key ss).foldlM (fun es c => c.change es) [] = some (es.only key) := by
  rw [ofStatements?_eq] at h
  exact only_foldlM key h

/-- Two documents with the same statements about a key have the same behind it. -/
theorem get?_eq_of_about_eq {ss ss' : List Statement} {es es' : Entries} {key : String}
    (h : ofStatements? ss = some es) (h' : ofStatements? ss' = some es')
    (habout : about key ss = about key ss') : es.get? key = es'.get? key := by
  have honly : es.only key = es'.only key := by
    have hss := only_ofStatements? h key
    rw [habout, only_ofStatements? h' key] at hss
    exact (Option.some.inj hss).symm
  rw [← get?_only, honly, get?_only]

end Entries

end StarSurvey.Toml
