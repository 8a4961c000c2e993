import StarSurvey.Proofs.Json.Layout
import StarSurvey.Proofs.Json.Spelling

/-!
# What is written for a value

The text of a value is a text in the sense of the grammar, whatever the value is and in whatever
spacing. So what it is decoded as depends on what it says, and of an object it is known once what the
texts under its known keys say.

- **Numbers** (`exists_numeral_integer`, `exists_writes_float`).
- **Values** (`Writes`, `exists_writes`): there is something that all texts of a value say.
- **Objects** (`Layout.exists_writes_object`): what is written under other keys does not matter.
- **Documents** (`Writes.decode_eq`).
-/

namespace StarSurvey.Json

open StarSurvey.Text (encode)

/-- All texts of a value say something. -/
def Writes (v : Value) (s : Source) : Prop :=
  ∀ (l : Spacing) (depth : ℕ), Spells s (encode (v.charsIn l depth))

/-! ## Numbers -/

/-- The text of an integer is the text of a numeral. -/
theorem exists_numeral_integer (n : ℤ) :
    ∃ u : Numeral, u.WellFormed ∧ encode (Number.integer n).chars = u.text := by
  cases n with
  | ofNat n =>
    refine ⟨_, (proper_integer false n).wellFormed, ?_⟩
    rw [← Spelling.encode_chars]
    show encode n.repr.toList = encode ([] ++ (Nat.toDigits 10 n ++ ([] ++ [])))
    simp [Nat.toList_repr]
  | negSucc n =>
    refine ⟨_, (proper_integer true (n + 1)).wellFormed, ?_⟩
    rw [← Spelling.encode_chars]
    show encode ("-" ++ (n + 1).repr).toList = encode (['-'] ++ (Nat.toDigits 10 (n + 1) ++ ([] ++ [])))
    simp [Nat.toList_repr]

theorem writes_number {n : Number} {u : Numeral} (hu : u.WellFormed) (h : encode n.chars = u.text) :
    Writes (.number n) (.number u) := by
  intro l depth
  show Spells _ (encode n.chars)
  rw [h, ← u.spelling_eq_text]
  exact .number hu false true

/-- A finite double is written as a number that is read as the double that is read back. -/
theorem exists_writes_float {x : Float} (hx : x.isFinite = true) :
    ∃ s, Writes (.float x) s ∧ s.double? = some (reread x) := by
  obtain ⟨u, hu, hvalue, htext⟩ := exists_numeral_float hx
  exact ⟨.number u, writes_number hu htext, Source.double?_eq_some_iff.mpr ⟨u, _, rfl, hvalue, rfl⟩⟩

theorem exists_writes_number (n : Number) : ∃ s, Writes (.number n) s := by
  cases n with
  | integer n =>
    obtain ⟨u, hu, htext⟩ := exists_numeral_integer n
    exact ⟨.number u, writes_number hu htext⟩
  | float x =>
    by_cases hx : x.isFinite = true
    · obtain ⟨s, hs, -⟩ := exists_writes_float hx
      exact ⟨s, hs⟩
    · refine ⟨.null, fun l depth => ?_⟩
      show Spells _ (encode (if x.isFinite then _ else _))
      rw [if_neg hx]
      exact .null

/-! ## Values -/

theorem writes_string (s : String) : Writes (.string s) (.string (some s)) := by
  obtain ⟨ps, hps, hquoted⟩ := exists_quoted s
  intro l depth
  rw [Value.charsIn, hquoted, ← hps]
  exact .string ps

theorem spellsElements_elementsIn {vs : List Value} {ss : List Source}
    (h : List.Forall₂ Writes vs ss) (l : Spacing) (depth : ℕ) (first : Bool) :
    SpellsElements first ss (encode (elementsIn l depth first vs)) := by
  induction h generalizing first with
  | nil => exact .nil first
  | cons value _ ih =>
    rw [elementsIn, Text.encode_append, Text.encode_append, Text.encode_append]
    exact .cons first (l.allBlank_line depth) (value l depth) .nil (ih false)

theorem writes_list {vs : List Value} {ss : List Source} (h : List.Forall₂ Writes vs ss) :
    Writes (.list vs) (.list ss) := by
  intro l depth
  rw [Value.charsIn, Text.encode_cons_of_lt (by decide), Text.encode_append, Text.encode_append]
  exact .list (spellsElements_elementsIn h l (depth + 1) true) (l.allBlank_closing _ depth)

/-- Members are written by key and value. -/
def WritesMember (m : String × Value) (m' : String × Source) : Prop :=
  m.1 = m'.1 ∧ Writes m.2 m'.2

theorem spellsMembers_membersIn {ms : List (String × Value)} {ms' : List (String × Source)}
    (h : List.Forall₂ WritesMember ms ms') (l : Spacing) (depth : ℕ) (first : Bool) :
    SpellsMembers first ms' (encode (membersIn l depth first ms)) := by
  induction h generalizing first with
  | nil => exact .nil first
  | @cons m m' ms ms' hm _ ih =>
    obtain ⟨k, v⟩ := m
    obtain ⟨k', s⟩ := m'
    obtain ⟨rfl, value⟩ := hm
    obtain ⟨ps, hps, hquoted⟩ := exists_quoted k
    rw [membersIn, Text.encode_append, Text.encode_append, Text.encode_append, hquoted,
      Text.encode_cons_of_lt (by decide), Text.encode_append, Text.encode_append]
    exact .cons first ps (l.allBlank_line depth) hps .nil l.allBlank_gap (value l depth) .nil
      (ih false)

theorem writes_object {ms : List (String × Value)} {ms' : List (String × Source)}
    (h : List.Forall₂ WritesMember ms ms') : Writes (.object ms) (.object ms') := by
  intro l depth
  rw [Value.charsIn, Text.encode_cons_of_lt (by decide), Text.encode_append, Text.encode_append]
  exact .object (spellsMembers_membersIn h l (depth + 1) true) (l.allBlank_closing _ depth)

mutual

/-- Whatever a value is, there is something that all its texts say. -/
theorem exists_writes : ∀ v : Value, ∃ s, Writes v s
  | .null => ⟨.null, fun _ _ => .null⟩
  | .boolean b => ⟨.boolean b, fun _ _ => by cases b <;> exact .boolean _⟩
  | .number n => exists_writes_number n
  | .string s => ⟨_, writes_string s⟩
  | .list vs =>
    have ⟨_, h⟩ := exists_writes_elements vs
    ⟨_, writes_list h⟩
  | .object ms =>
    have ⟨_, h⟩ := exists_writes_members ms
    ⟨_, writes_object h⟩

theorem exists_writes_elements : ∀ vs : List Value, ∃ ss, List.Forall₂ Writes vs ss
  | [] => ⟨[], .nil⟩
  | v :: vs =>
    have ⟨_, hv⟩ := exists_writes v
    have ⟨_, hvs⟩ := exists_writes_elements vs
    ⟨_, .cons hv hvs⟩

theorem exists_writes_members : ∀ ms : List (String × Value), ∃ ms', List.Forall₂ WritesMember ms ms'
  | [] => ⟨[], .nil⟩
  | (k, v) :: ms =>
    have ⟨s, hv⟩ := exists_writes v
    have ⟨_, hms⟩ := exists_writes_members ms
    ⟨(k, s) :: _, .cons ⟨rfl, hv⟩ hms⟩

end

/-! ## Objects -/

theorem valuesOf_eq_singleton {k : String} {v : Source} {ms : List (String × Source)}
    (hnodup : (ms.map Prod.fst).Nodup) (h : (k, v) ∈ ms) : valuesOf k ms = [v] := by
  induction ms with
  | nil => cases h
  | cons m ms ih =>
    obtain ⟨j, w⟩ := m
    rw [List.map_cons, List.nodup_cons] at hnodup
    rcases List.mem_cons.mp h with heq | hmem
    · cases heq
      rw [valuesOf_cons_self, valuesOf, List.filter_eq_nil_iff.mpr, List.map_nil]
      intro m hm hk
      exact hnodup.1 (List.mem_map.mpr ⟨m, hm, beq_iff_eq.mp hk⟩)
    · have hne : j ≠ k := by
        rintro rfl
        exact hnodup.1 (List.mem_map.mpr ⟨_, hmem, rfl⟩)
      rw [valuesOf_cons_of_ne hne, ih hnodup.2 hmem]

/-- An object whose keys differ is written as one that is taken for a value, if under each known key
there is something that is written as what is taken for the content of its field. -/
theorem Layout.exists_writes_object {σ α : Type} {shape : Shape σ α} (l : Layout shape)
    {ms : List (String × Value)} (hnodup : (ms.map Prod.fst).Nodup) {a : α}
    (h : ∀ c ∈ l.cells, ∃ v s, (c.name, v) ∈ ms ∧ Writes v s ∧ c.sense s = c.get (l.parts a)) :
    ∃ s, Writes (.object ms) s ∧ l.sense s = some a := by
  have hmember : ∀ m : String × Value, ∃ s, Writes m.2 s ∧
      (m ∈ ms → ∀ c ∈ l.cells, c.name = m.1 → c.sense s = c.get (l.parts a)) := by
    rintro ⟨k, v⟩
    by_cases hknown : (k, v) ∈ ms ∧ ∃ c ∈ l.cells, c.name = k
    · obtain ⟨hm, c, hc, rfl⟩ := hknown
      obtain ⟨w, s, hw, hs, hsense⟩ := h c hc
      cases List.inj_on_of_nodup_map hnodup hm hw rfl
      refine ⟨s, hs, fun _ d hd hname => ?_⟩
      obtain rfl := l.separate.eq_of_name_eq hd hc hname
      exact hsense
    · obtain ⟨s, hs⟩ := exists_writes v
      exact ⟨s, hs, fun hm c hc hname => (hknown ⟨hm, c, hc, hname⟩).elim⟩
  choose source hwrites hsense using hmember
  let ms' := ms.map fun m => (m.1, source m)
  have hkeys : (ms'.map Prod.fst).Nodup := by rwa [List.map_map]
  refine ⟨.object ms', writes_object ?_, l.sense_object_eq_some_iff.mpr fun c hc => ?_⟩
  · rw [List.forall₂_map_right_iff, List.forall₂_same]
    exact fun m _ => ⟨rfl, hwrites m⟩
  · obtain ⟨v, -, hv, -⟩ := h c hc
    exact ⟨source (c.name, v), valuesOf_eq_singleton hkeys (List.mem_map.mpr ⟨_, hv, rfl⟩),
      hsense _ hv c hc rfl⟩

/-! ## Documents -/

/-- What is written for a value is decoded as what it says. -/
theorem Writes.decode_eq {α : Type} {r : Reader α} {sense : Source → Option α} (h : Takes r sense)
    {v : Value} {s : Source} (hv : Writes v s) {a : α} (hs : sense s = some a) :
    decode r (Text.bytes v.compact) = .ok a ∧ decode r (Text.bytes v.pretty) = .ok a := by
  have hdecode : ∀ l : Spacing, decode r (encode (v.charsIn l 0)) = .ok a := by
    intro l
    have hboth := (h.decode_iff (hv l 0) .nil .nil).mpr hs
    rwa [List.nil_append, List.append_nil] at hboth
  rw [Value.compact, Value.pretty, Text.bytes_ofList, Text.bytes_ofList, Value.compactChars_eq v 0,
    Value.prettyChars_eq]
  exact ⟨hdecode .compact, hdecode .indented⟩

end StarSurvey.Json
