import StarSurvey.Proofs.Json.Sense

/-!
# Objects with known keys

An object is taken for the value of a shape if each known key stands once among its members and its
value is taken for the value of its field. What stands under other keys does not matter.

- **Members** (`settles_readMembers`): the members of an object are read as `takeMembers` says, that
  is one after the other, and no field twice.
- **Rows** (`settles_readRow`): a list has the values of the fields in the order of their declaration.
- **Fields** (`Cell.result`): what the members set a field to does not depend on the other fields.
- **Layouts** (`Layout.takes`, `Layout.sense_object_eq_some_iff`): what is known of a shape whose fields
  do not get in each other's way.
-/

namespace StarSurvey.Json

open StarSurvey.Text (encode)

variable {σ α : Type} {bs back close rest : List UInt8}

theorem SpellsMembers.exists_spells {first : Bool} {ms : List (String × Source)}
    (h : SpellsMembers first ms bs) {m : String × Source} (hm : m ∈ ms) : ∃ cs, Spells m.2 cs := by
  induction ms generalizing first bs with
  | nil => cases hm
  | cons m' ms ih =>
    cases h with
    | cons _ ps hfront key hbehind hgap value hback others =>
      rcases List.mem_cons.mp hm with rfl | hm
      · exact ⟨_, value⟩
      · exact ih others hm

/-- A known field, with the sense in which its value is taken. -/
structure Cell (σ : Type) where
  {Content : Type}
  name : String
  get : σ → Option Content
  put : σ → Content → σ
  read : Reader Content
  sense : Source → Option Content
  takes : Takes read sense

/-- The field that is read. -/
def Cell.field (c : Cell σ) : Field σ := .of c.name c.get c.put c.read

/-! ## Members -/

/-- The parts that members set, one after the other; no field is set twice. -/
def takeMembers (cells : List (Cell σ)) : σ → List (String × Source) → Option σ
  | p, [] => some p
  | p, (k, v) :: ms =>
    match cells.find? fun c => c.name == k with
    | some c =>
      if (c.get p).isSome then none
      else ((c.sense v).map (c.put p)).bind fun q => takeMembers cells q ms
    | none => takeMembers cells p ms

theorem find?_field (cells : List (Cell σ)) (k : String) :
    (cells.map Cell.field).find? (fun f => f.name == k) =
      (cells.find? fun c => c.name == k).map Cell.field :=
  List.find?_map ..

theorem settles_readMembers (cells : List (Cell σ)) {ms : List (String × Source)}
    (hclose : AllBlank close) (rest : List UInt8) {first : Bool} (h : SpellsMembers first ms bs)
    (hback : AllBlank back) (p : σ) (fuel : ℕ) (hfuel : ms.length < fuel) :
    Settles (Shape.readMembers (cells.map Cell.field) fuel first p)
      (back ++ (bs ++ (close ++ 0x7D :: rest))) (takeMembers cells p ms) (0x7D :: rest) := by
  induction ms generalizing first bs back p fuel with
  | nil =>
    obtain ⟨n, rfl⟩ := Nat.exists_eq_add_of_le' hfuel
    cases h
    rw [List.nil_append, ← List.append_assoc]
    exact (Shape.reads_nextKey_end first (hback.append hclose) rest).settles_bind
      (Reads.pure p _).settles
  | cons m ms ih =>
    obtain ⟨n, rfl⟩ := Nat.exists_eq_add_of_le' (Nat.lt_of_le_of_lt (Nat.zero_le _) hfuel)
    rw [List.length_cons] at hfuel
    cases h with
    | cons _ ps hfront key hbehind hgap value hback' others =>
      have hend := endsNumeral_append hback'
        (others.endsNumeral (endsNumeral_close hclose (.inr rfl) rest))
      have hkey := settles_readString ps
      rw [key] at hkey
      simp only [List.append_assoc, List.cons_append, quoted_append]
      refine (Shape.reads_nextKey_of_blanks first hback hfront _).settles_bind ?_
      refine Reads.settles_bind (hkey _) ?_
      rw [takeMembers, find?_field]
      cases cells.find? fun c => c.name == _ with
      | none =>
        refine (Shape.reads_colon hbehind _).settles_bind ?_
        refine (reads_skipValue value hgap (hend.ends _)).settles_bind ?_
        exact ih others hback' p n (by omega)
      | some c =>
        show Settles (if (c.get p).isSome = true then _ else _) _ (if _ then _ else _) _
        split
        · exact (Shape.ensures_repeated _).settles _ _
        · refine (Shape.reads_colon hbehind _).settles_bind ?_
          refine ((c.takes.map (c.put p)) value hgap (hend.ends _)).bind fun q _ => ?_
          exact ih others hback' q n (by omega)

/-- The parts that a row sets; there is a value for each field. -/
def takeRow : List (Cell σ) → σ → List Source → Option σ
  | [], p, [] => some p
  | c :: cells, p, v :: vs => ((c.sense v).map (c.put p)).bind fun q => takeRow cells q vs
  | _, _, _ => none

theorem fails_endList (hback : AllBlank back) {b : UInt8} (hb : isBlank b = false)
    (hbracket : b ≠ 0x5D) (rest : List UInt8) :
    Fails endList (back ++ b :: rest) fun _ => True := by
  refine .bind_of_reads (reads_blanks hback hb rest) (.bind_of_reads (reads_peek _) ?_)
  show Fails (if b = 0x5D then _ else _) _ _
  rw [if_neg hbracket]
  refine Ensures.fails ?_ _
  split
  · refine .bind_of_forall fun _ => .bind_of_forall fun _ => .bind_of_forall fun c => ?_
    split <;> exact ensures_failPast _
  · exact ensures_failPast _

/-- In front of another element there is no bracket. -/
theorem fails_endList_of_more {first : Bool} {v : Source} {vs : List Source}
    (h : SpellsElements first (v :: vs) bs) (hback : AllBlank back) (rest : List UInt8) :
    Fails endList (back ++ (bs ++ rest)) fun _ => True := by
  cases h with
  | cons _ hfront value hback' others =>
    obtain ⟨b, more, rfl, hb⟩ := value.begins
    cases first with
    | true =>
      have h := fails_endList (hback.append hfront) hb.isBlank.1 hb.isBlank.2
      simpa using h _
    | false => exact fails_endList hback (b := 0x2C) rfl (by decide) _

theorem reads_nextElement_of_spells (first : Bool) {v : Source} (value : Spells v bs)
    (hback : AllBlank back) {front : List UInt8} (hfront : AllBlank front) (rest : List UInt8) :
    Reads (nextElement first) (back ++ (encode (comma first) ++ (front ++ (bs ++ rest)))) true
      (bs ++ rest) := by
  obtain ⟨b, more, rfl, hb⟩ := value.begins
  exact reads_nextElement_of_blanks first hback hfront hb.isBlank.1 hb.isBlank.2 (more ++ rest)

/-- A row is read, its bracket is passed, and something is made of the parts. -/
theorem settles_readRow {r : σ → Reader α} {whole : σ → Option α}
    (hr : ∀ p rest, Settles (r p) rest (whole p) rest) (title : String) (cells : List (Cell σ))
    {vs : List Source} (hclose : AllBlank close) (rest : List UInt8) (taken : ℕ)
    (h : SpellsElements (taken == 0) vs bs) (hback : AllBlank back) (p : σ) :
    Settles (do let q ← Shape.readRow title (cells.map Cell.field) taken p; endList; r q)
      (back ++ (bs ++ (close ++ 0x5D :: rest))) ((takeRow cells p vs).bind whole) rest := by
  induction cells generalizing vs bs back p taken with
  | nil =>
    cases vs with
    | nil =>
      cases h
      have hend : Reads endList (back ++ ([] ++ (close ++ 0x5D :: rest))) () rest := by
        rw [List.nil_append, ← List.append_assoc]
        exact (reads_blanks (hback.append hclose) (b := 0x5D) rfl rest).bind
          ((reads_peek _).bind (reads_pass _ _))
      exact (Reads.pure p _).settles_bind (hend.settles_bind (hr p rest))
    | cons v vs =>
      obtain ⟨e, he, -⟩ := fails_endList_of_more h hback (close ++ 0x5D :: rest)
      exact Fails.bind_of_reads (.pure p _) (Fails.bind ⟨e, he, trivial⟩)
  | cons c cells ih =>
    simp only [List.map_cons, Shape.readRow, bind_assoc]
    cases vs with
    | nil =>
      cases h
      rw [List.nil_append, ← List.append_assoc]
      refine (reads_nextElement_end _ (hback.append hclose) rest).settles_bind ?_
      rw [if_neg Bool.false_ne_true, bind_assoc]
      exact (Ensures.bind_of_forall fun _ => .bind (P := fun _ => False) (ensures_fail _)
        fun _ h => h.elim).settles _ _
    | cons v vs =>
      cases h with
      | cons _ hfront value hback' others =>
        have hend := endsNumeral_append hback'
          (others.endsNumeral (endsNumeral_close hclose (.inl rfl) rest))
        simp only [List.append_assoc]
        refine (reads_nextElement_of_spells _ value hback hfront _).settles_bind ?_
        rw [if_pos rfl, bind_assoc, takeRow, Option.bind_assoc]
        refine ((c.takes.map (c.put p)) value .nil (hend.ends _)).bind fun q _ => ?_
        exact ih (taken + 1) others hback' q

/-! ## Fields -/

/-- The values that stand under a key. -/
def valuesOf (k : String) (ms : List (String × Source)) : List Source :=
  (ms.filter fun m => m.1 == k).map Prod.snd

theorem valuesOf_cons_self (k : String) (v : Source) (ms : List (String × Source)) :
    valuesOf k ((k, v) :: ms) = v :: valuesOf k ms := by
  simp [valuesOf]

theorem valuesOf_cons_of_ne {k j : String} (h : j ≠ k) (v : Source) (ms : List (String × Source)) :
    valuesOf k ((j, v) :: ms) = valuesOf k ms := by
  simp [valuesOf, h]

/-- One value stands under the key, and it is of some kind. -/
def Only (k : String) (ms : List (String × Source)) (P : Source → Prop) : Prop :=
  ∃ v, valuesOf k ms = [v] ∧ P v

theorem mem_of_valuesOf_eq {k : String} {ms : List (String × Source)} {v : Source}
    (h : valuesOf k ms = [v]) : (k, v) ∈ ms := by
  have hv : v ∈ valuesOf k ms := h ▸ List.mem_singleton_self v
  obtain ⟨m, hm, rfl⟩ := List.mem_map.mp hv
  obtain ⟨hmem, hk⟩ := List.mem_filter.mp hm
  rwa [← beq_iff_eq.mp hk]

theorem only_congr {k : String} {ms : List (String × Source)} {P Q : Source → Prop}
    (h : ∀ v, (k, v) ∈ ms → (P v ↔ Q v)) : Only k ms P ↔ Only k ms Q :=
  exists_congr fun v => and_congr_right fun hv => h v (mem_of_valuesOf_eq hv)

namespace Cell

/-- What members set a field to. A field is set once, by a value that is taken for something. -/
def result (c : Cell σ) (p : σ) (ms : List (String × Source)) : Option (Option c.Content) :=
  match valuesOf c.name ms with
  | [] => some (c.get p)
  | [v] => if (c.get p).isSome then none else (c.sense v).map some
  | _ => none

theorem result_nil (c : Cell σ) (p : σ) : c.result p [] = some (c.get p) := by
  simp [result, valuesOf]

/-- Members with other keys do not matter, and neither do other fields. -/
theorem result_cons_of_ne {c : Cell σ} {k : String} (h : k ≠ c.name) {p q : σ}
    (hget : c.get q = c.get p) (v : Source) (ms : List (String × Source)) :
    c.result p ((k, v) :: ms) = c.result q ms := by
  rw [result, valuesOf_cons_of_ne h, ← hget, result]

theorem result_cons_self_of_isSome {c : Cell σ} {p : σ} (h : (c.get p).isSome = true) (v : Source)
    (ms : List (String × Source)) : c.result p ((c.name, v) :: ms) = none := by
  rw [result, valuesOf_cons_self]
  cases valuesOf c.name ms with
  | nil => exact if_pos h
  | cons w ws => rfl

theorem result_cons_self {c : Cell σ} {p : σ} (h : c.get p = none)
    (hput : ∀ a, c.get (c.put p a) = some a) (v : Source) (ms : List (String × Source)) :
    c.result p ((c.name, v) :: ms) = (c.sense v).bind fun a => c.result (c.put p a) ms := by
  simp only [result, valuesOf_cons_self, h, hput]
  match valuesOf c.name ms with
  | [] => cases h : c.sense v <;> simp [h]
  | [w] => cases c.sense v <;> simp
  | w :: u :: ws => cases c.sense v <;> simp

end Cell

/-- Fields that do not get in each other's way: none is set at first, and what one is set to, it alone
is set to. -/
structure Separate (cells : List (Cell σ)) (start : σ) : Prop where
  nodup : (cells.map Cell.name).Nodup
  unset : ∀ c ∈ cells, c.get start = none
  get_put : ∀ c ∈ cells, ∀ p a, c.get (c.put p a) = some a
  get_put_of_ne : ∀ c ∈ cells, ∀ d ∈ cells, c.name ≠ d.name → ∀ p a, c.get (d.put p a) = c.get p

namespace Separate

variable {cells : List (Cell σ)} {start : σ}

theorem eq_of_name_eq (h : Separate cells start) {c d : Cell σ} (hc : c ∈ cells) (hd : d ∈ cells)
    (hname : c.name = d.name) : c = d :=
  List.inj_on_of_nodup_map h.nodup hc hd hname

theorem result_of_takeMembers (h : Separate cells start) {p q : σ} {ms : List (String × Source)}
    (htake : takeMembers cells p ms = some q) {c : Cell σ} (hc : c ∈ cells) :
    c.result p ms = some (c.get q) := by
  induction ms generalizing p with
  | nil =>
    cases htake
    exact c.result_nil q
  | cons m ms ih =>
    obtain ⟨k, v⟩ := m
    rw [takeMembers] at htake
    split at htake
    · rename_i d hfind
      have hd := List.mem_of_find?_eq_some hfind
      obtain rfl : d.name = k := by simpa using List.find?_some hfind
      split at htake
      · cases htake
      · rename_i hunset
        obtain ⟨p', hp', hmore⟩ := Option.bind_eq_some_iff.mp htake
        obtain ⟨a, ha, rfl⟩ := Option.map_eq_some_iff.mp hp'
        have hnext := ih hmore
        by_cases hname : d.name = c.name
        · obtain rfl := h.eq_of_name_eq hd hc hname
          rw [Cell.result_cons_self (by simpa using hunset) (h.get_put d hd p), ha]
          exact hnext
        · rw [Cell.result_cons_of_ne hname (h.get_put_of_ne c hc d hd (Ne.symm hname) p a), hnext]
    · rename_i hfind
      have hname : k ≠ c.name := by
        intro hk
        have := List.find?_eq_none.mp hfind c hc
        simp [hk] at this
      rw [Cell.result_cons_of_ne hname rfl, ih htake]

theorem isSome_takeMembers (h : Separate cells start) {p : σ} {ms : List (String × Source)}
    (hresult : ∀ c ∈ cells, (c.result p ms).isSome = true) :
    (takeMembers cells p ms).isSome = true := by
  induction ms generalizing p with
  | nil => rfl
  | cons m ms ih =>
    obtain ⟨k, v⟩ := m
    rw [takeMembers]
    split
    · rename_i d hfind
      have hd := List.mem_of_find?_eq_some hfind
      obtain rfl : d.name = k := by simpa using List.find?_some hfind
      have hown := hresult d hd
      split
      · rename_i hset
        rw [Cell.result_cons_self_of_isSome hset] at hown
        cases hown
      · rename_i hunset
        rw [Cell.result_cons_self (by simpa using hunset) (h.get_put d hd p)] at hown
        obtain ⟨a, ha⟩ : ∃ a, d.sense v = some a := by
          cases hsense : d.sense v with
          | none => rw [hsense] at hown; cases hown
          | some a => exact ⟨a, rfl⟩
        rw [ha] at hown ⊢
        refine ih fun c hc => ?_
        by_cases hname : d.name = c.name
        · obtain rfl := h.eq_of_name_eq hd hc hname
          exact hown
        · have hother := hresult c hc
          rwa [Cell.result_cons_of_ne hname (h.get_put_of_ne c hc d hd (Ne.symm hname) p a)] at hother
    · rename_i hfind
      refine ih fun c hc => ?_
      have hname : k ≠ c.name := by
        intro hk
        have := List.find?_eq_none.mp hfind c hc
        simp [hk] at this
      have hother := hresult c hc
      rwa [Cell.result_cons_of_ne hname rfl] at hother

/-- All fields are set to their contents by members if each of their keys stands there once, with a
value that is taken for the content. -/
theorem takeMembers_eq_some_iff (h : Separate cells start) {q : σ}
    (hext : ∀ p, (∀ c ∈ cells, c.get p = c.get q) → p = q)
    (hset : ∀ c ∈ cells, (c.get q).isSome = true) {ms : List (String × Source)} :
    takeMembers cells start ms = some q ↔
      ∀ c ∈ cells, Only c.name ms fun v => c.sense v = c.get q := by
  have hresult : ∀ c ∈ cells, ∀ a, c.result start ms = some (some a) ↔
      Only c.name ms fun v => c.sense v = some a := by
    intro c hc a
    rw [Cell.result, h.unset c hc, Only]
    match valuesOf c.name ms with
    | [] => simp
    | [v] => simp
    | v :: w :: vs => simp
  constructor
  · intro htake c hc
    obtain ⟨a, ha⟩ := Option.isSome_iff_exists.mp (hset c hc)
    rw [ha]
    exact (hresult c hc a).mp (ha ▸ h.result_of_takeMembers htake hc)
  · intro hvalues
    have hwanted : ∀ c ∈ cells, c.result start ms = some (c.get q) := by
      intro c hc
      obtain ⟨a, ha⟩ := Option.isSome_iff_exists.mp (hset c hc)
      have hv := hvalues c hc
      rw [ha] at hv ⊢
      exact (hresult c hc a).mpr hv
    have hsome := h.isSome_takeMembers fun c hc => by rw [hwanted c hc]; rfl
    obtain ⟨p, hp⟩ := Option.isSome_iff_exists.mp hsome
    rw [hp, hext p fun c hc => ?_]
    exact Option.some.inj ((h.result_of_takeMembers hp hc).symm.trans (hwanted c hc))

end Separate

/-! ## Layouts -/

/-- What is known of a shape: its fields do not get in each other's way, and a value of the shape is
made up of parts that are all set. -/
structure Layout (shape : Shape σ α) where
  cells : List (Cell σ)
  parts : α → σ
  fields_eq : shape.fields = cells.map Cell.field
  separate : Separate cells shape.none
  whole_eq_some_iff : ∀ p a, shape.whole p = some a ↔ p = parts a
  isSome_parts : ∀ a, ∀ c ∈ cells, (c.get (parts a)).isSome = true
  ext : ∀ p q, (∀ c ∈ cells, c.get p = c.get q) → p = q

namespace Layout

variable {shape : Shape σ α}

/-- What a value is taken for. -/
def sense (l : Layout shape) : Source → Option α
  | .object ms => (takeMembers l.cells shape.none ms).bind shape.whole
  | .list vs => (takeRow l.cells shape.none vs).bind shape.whole
  | _ => none

theorem settles_finish (shape : Shape σ α) (p : σ) (rest : List UInt8) :
    Settles (shape.finish p) rest (shape.whole p) rest := by
  rw [Shape.finish]
  cases shape.whole p with
  | none => exact ⟨_, rfl, trivial⟩
  | some a => exact Reads.pure a rest

theorem length_le_of_spells {first : Bool} {ms : List (String × Source)}
    (h : SpellsMembers first ms bs) : ms.length ≤ bs.length := by
  induction ms generalizing first bs with
  | nil => exact Nat.zero_le _
  | cons m ms ih =>
    cases h with
    | cons _ ps hfront key hbehind hgap value hback others =>
      have hmore := ih others
      simp only [List.length_append, List.length_cons]
      omega

/-- The reader of a shape takes an object by its members and a list by its elements. -/
theorem takes (l : Layout shape) : Takes shape.read l.sense := by
  intro v bs hv front rest hfront _
  refine settles_firstByte hv hfront fun b hb => ?_
  split
  · rename_i hbrace
    subst hbrace
    obtain ⟨ms, rfl⟩ := hb.exists_object
    cases hv with
    | @object _ inside close members hclose =>
      have htext : 0x7B :: (inside ++ (close ++ [0x7D])) ++ rest =
          0x7B :: (inside ++ (close ++ 0x7D :: rest)) := by simp
      have hfuel := length_le_of_spells members
      rw [htext, l.fields_eq]
      refine (reads_pass _ _).settles_bind ((reads_get _).settles_bind ?_)
      refine (settles_readMembers l.cells hclose rest members .nil shape.none _ ?_).bind
        fun p _ => (reads_pass _ _).settles_bind (settles_finish shape p rest)
      rw [List.length_append]
      omega
  · split
    · rename_i hbracket
      subst hbracket
      obtain ⟨vs, rfl⟩ := hb.exists_list
      cases hv with
      | @list _ inside close items hclose =>
        have htext : 0x5B :: (inside ++ (close ++ [0x5D])) ++ rest =
            0x5B :: (inside ++ (close ++ 0x5D :: rest)) := by simp
        rw [htext, l.fields_eq]
        refine (reads_pass _ _).settles_bind ?_
        exact settles_readRow (settles_finish shape) _ l.cells hclose rest 0 items .nil shape.none
    · rename_i hbrace hbracket
      have hnone : l.sense v = none := by
        cases v with
        | object ms => exact absurd hb hbrace
        | list vs => exact absurd hb hbracket
        | null | boolean b | number n | string s => rfl
      rw [hnone]
      exact (ensures_misfit _).settles _ _

/-- An object is taken for a value if each known key stands once among its members, with a value
that is taken for the content of its field. -/
theorem sense_object_eq_some_iff (l : Layout shape) {ms : List (String × Source)} {a : α} :
    l.sense (.object ms) = some a ↔
      ∀ c ∈ l.cells, Only c.name ms fun v => c.sense v = c.get (l.parts a) := by
  rw [← l.separate.takeMembers_eq_some_iff (fun p => l.ext p _) (l.isSome_parts a), sense,
    Option.bind_eq_some_iff]
  constructor
  · rintro ⟨p, hp, hwhole⟩
    rwa [← (l.whole_eq_some_iff p a).mp hwhole]
  · exact fun hp => ⟨_, hp, (l.whole_eq_some_iff _ a).mpr rfl⟩

end Layout

/-! ## What does not matter -/

/-- The keys of an object. -/
def Shape.keys (shape : Shape σ α) : List String := shape.fields.map Field.name

/-- The members with known keys. -/
def known (keys : List String) (ms : List (String × Source)) : List (String × Source) :=
  ms.filter fun m => m.1 ∈ keys

/-- Objects are alike if their members with known keys are, in whatever order; what counts as alike
under a key is given. Other values are alike only if they are the same. -/
inductive Alike (keys : List String) (within : String → Source → Source → Prop) :
    Source → Source → Prop where
  | refl (v : Source) : Alike keys within v v
  | object {ms ms' middle : List (String × Source)} (order : (known keys ms).Perm middle)
      (values : List.Forall₂ (fun m m' => m.1 = m'.1 ∧ within m.1 m.2 m'.2) middle
        (known keys ms')) : Alike keys within (.object ms) (.object ms')

theorem valuesOf_known {keys : List String} {k : String} (hk : k ∈ keys)
    (ms : List (String × Source)) : valuesOf k (known keys ms) = valuesOf k ms := by
  rw [valuesOf, known, List.filter_filter, valuesOf]
  congr 1
  refine List.filter_congr fun m _ => ?_
  by_cases hm : m.1 = k <;> simp [hm, hk]

theorem forall₂_valuesOf {within : String → Source → Source → Prop} {k : String}
    {ms ms' : List (String × Source)}
    (h : List.Forall₂ (fun m m' => m.1 = m'.1 ∧ within m.1 m.2 m'.2) ms ms') :
    List.Forall₂ (within k) (valuesOf k ms) (valuesOf k ms') := by
  induction h with
  | nil => exact .nil
  | @cons m m' ms ms' hm _ ih =>
    obtain ⟨j, v⟩ := m
    obtain ⟨j', v'⟩ := m'
    obtain ⟨rfl, hwithin⟩ := hm
    by_cases hj : j = k
    · subst hj
      rw [valuesOf_cons_self, valuesOf_cons_self]
      exact .cons hwithin ih
    · rwa [valuesOf_cons_of_ne hj, valuesOf_cons_of_ne hj]

/-- Under a known key, objects that are alike have only a value of some kind both or neither. -/
theorem only_iff_of_alike {keys : List String} {within : String → Source → Source → Prop}
    {ms ms' middle : List (String × Source)} (order : (known keys ms).Perm middle)
    (values : List.Forall₂ (fun m m' => m.1 = m'.1 ∧ within m.1 m.2 m'.2) middle (known keys ms'))
    {k : String} (hk : k ∈ keys) {P : Source → Prop} (hP : ∀ v w, within k v w → (P v ↔ P w)) :
    Only k ms P ↔ Only k ms' P := by
  have hperm : (valuesOf k ms).Perm (valuesOf k middle) := by
    rw [← valuesOf_known hk ms]
    exact (order.filter _).map _
  have hvalues := forall₂_valuesOf (k := k) values
  rw [valuesOf_known hk] at hvalues
  constructor
  · rintro ⟨v, hv, hx⟩
    rw [hv] at hperm
    rw [← List.singleton_perm.mp hperm] at hvalues
    obtain ⟨w, ws, hw, hws, hms'⟩ := List.forall₂_cons_left_iff.mp hvalues
    rw [List.forall₂_nil_left_iff.mp hws] at hms'
    exact ⟨w, hms', (hP v w hw).mp hx⟩
  · rintro ⟨w, hw, hx⟩
    rw [hw] at hvalues
    obtain ⟨v, vs, hv, hvs, hmiddle⟩ := List.forall₂_cons_right_iff.mp hvalues
    rw [List.forall₂_nil_right_iff.mp hvs] at hmiddle
    rw [hmiddle] at hperm
    exact ⟨v, List.perm_singleton.mp hperm, (hP v w hv).mpr hx⟩

/-- Values that are alike are taken for the same. -/
theorem Layout.sense_eq_of_alike {shape : Shape σ α} (l : Layout shape)
    {within : String → Source → Source → Prop}
    (hwithin : ∀ c ∈ l.cells, ∀ v w, within c.name v w → c.sense v = c.sense w) {v w : Source}
    (h : Alike shape.keys within v w) : l.sense v = l.sense w := by
  cases h with
  | refl => rfl
  | @object ms ms' middle order values =>
    have hkeys : ∀ c ∈ l.cells, c.name ∈ shape.keys := by
      intro c hc
      rw [Shape.keys, l.fields_eq, List.map_map]
      exact List.mem_map_of_mem hc
    ext a
    rw [l.sense_object_eq_some_iff, l.sense_object_eq_some_iff]
    refine forall₂_congr fun c hc => only_iff_of_alike order values (hkeys c hc) fun v w hvw => ?_
    rw [hwithin c hc v w hvw]

end StarSurvey.Json
