import StarSurvey.Json.Value
import StarSurvey.Proofs.Json.Reader
import StarSurvey.Proofs.Text

/-!
# Where a JSON text has blanks

The compact and the indented text of a value differ in their blanks only. A `Spacing` says where a text
has blanks, so that what holds of texts in any spacing holds of both.

- **Texts** (`Value.charsIn`): the text of a value in a spacing.
- **The two spacings** (`Value.compactChars_eq`, `Value.prettyChars_eq`).
-/

namespace StarSurvey.Json

open StarSurvey.Text (encode)

/-- Where a text has blanks. -/
structure Spacing where
  /-- In front of the elements and members at a depth, and of what closes those one deeper. -/
  line : ℕ → List Char
  /-- Behind a colon. -/
  gap : List Char
  allBlank_line : ∀ depth, AllBlank (encode (line depth))
  allBlank_gap : AllBlank (encode gap)

/-- What stands in front of the bracket or brace that closes something at a depth: where nothing is
in it, nothing. -/
def Spacing.closing (l : Spacing) (isEmpty : Bool) (depth : ℕ) : List Char :=
  if isEmpty then [] else l.line depth

theorem Spacing.allBlank_closing (l : Spacing) (isEmpty : Bool) (depth : ℕ) :
    AllBlank (encode (l.closing isEmpty depth)) := by
  cases isEmpty with
  | true => exact .nil
  | false => exact l.allBlank_line depth

/-- The comma in front of all but the first. -/
def comma (first : Bool) : List Char := if first then [] else [',']

@[simp] theorem encode_comma_true : encode (comma true) = [] := rfl

@[simp] theorem encode_comma_false : encode (comma false) = [0x2C] := rfl

mutual

/-- The text of a value that stands at a depth. -/
def Value.charsIn (l : Spacing) : ℕ → Value → List Char
  | _, .null => "null".toList
  | _, .boolean b => (if b then "true" else "false").toList
  | _, .number n => n.chars
  | _, .string s => quote s
  | depth, .list vs =>
    '[' :: (elementsIn l (depth + 1) true vs ++ (l.closing vs.isEmpty depth ++ [']']))
  | depth, .object ms =>
    '\x7b' :: (membersIn l (depth + 1) true ms ++ (l.closing ms.isEmpty depth ++ ['\x7d']))

/-- Elements behind the bracket or behind other elements. -/
def elementsIn (l : Spacing) : ℕ → (first : Bool) → List Value → List Char
  | _, _, [] => []
  | depth, first, v :: vs =>
    comma first ++ (l.line depth ++ (v.charsIn l depth ++ elementsIn l depth false vs))

/-- Members behind the brace or behind other members. -/
def membersIn (l : Spacing) : ℕ → (first : Bool) → List (String × Value) → List Char
  | _, _, [] => []
  | depth, first, (k, v) :: ms => comma first ++ (l.line depth ++ (quote k ++
      ':' :: (l.gap ++ (v.charsIn l depth ++ membersIn l depth false ms))))

end

/-! ## The two spacings -/

theorem allBlank_newLine (depth : ℕ) : AllBlank (encode (newLine depth)) := by
  have hspaces : ∀ n, AllBlank (encode (List.replicate n ' ')) := by
    intro n
    induction n with
    | zero => exact .nil
    | succ n ih =>
      rw [List.replicate_succ, Text.encode_cons_of_lt (by decide)]
      intro b hb
      rcases List.mem_cons.mp hb with rfl | hb
      · rfl
      · exact ih b hb
  rw [newLine, Text.encode_cons_of_lt (by decide)]
  intro b hb
  rcases List.mem_cons.mp hb with rfl | hb
  · rfl
  · exact hspaces _ b hb

/-- No blanks at all. -/
def Spacing.compact : Spacing := ⟨fun _ => [], [], fun _ => .nil, .nil⟩

/-- All on lines of their own, indented by two spaces a level. -/
def Spacing.indented : Spacing :=
  ⟨newLine, [' '], allBlank_newLine, fun b hb => by rw [List.mem_singleton.mp hb]; rfl⟩

mutual

theorem Value.compactChars_eq : ∀ (v : Value) (depth : ℕ),
    v.compactChars = v.charsIn .compact depth
  | .null, _ => rfl
  | .boolean _, _ => rfl
  | .number _, _ => rfl
  | .string _, _ => rfl
  | .list [], _ => rfl
  | .list (v :: vs), depth => by
    rw [Value.compactChars, Value.charsIn, ← compactElements_eq (v :: vs) (depth + 1) true nofun]
    rfl
  | .object [], _ => rfl
  | .object (m :: ms), depth => by
    rw [Value.compactChars, Value.charsIn, ← compactMembers_eq (m :: ms) (depth + 1) true nofun]
    rfl

theorem compactElements_eq : ∀ (vs : List Value) (depth : ℕ) (first : Bool), vs ≠ [] →
    comma first ++ compactElements vs = elementsIn .compact depth first vs
  | [], _, _, h => absurd rfl h
  | [v], depth, first, _ => by
    rw [elementsIn, ← Value.compactChars_eq v depth, elementsIn, List.append_nil]
    rfl
  | v :: w :: vs, depth, first, _ => by
    rw [elementsIn, ← Value.compactChars_eq v depth,
      ← compactElements_eq (w :: vs) depth false nofun]
    rfl

theorem compactMembers_eq : ∀ (ms : List (String × Value)) (depth : ℕ) (first : Bool), ms ≠ [] →
    comma first ++ compactMembers ms = membersIn .compact depth first ms
  | [], _, _, h => absurd rfl h
  | [(k, v)], depth, first, _ => by
    rw [membersIn, ← Value.compactChars_eq v depth, membersIn, List.append_nil]
    rfl
  | (k, v) :: m :: ms, depth, first, _ => by
    rw [membersIn, ← Value.compactChars_eq v depth, ← compactMembers_eq (m :: ms) depth false nofun,
      compactMembers, List.append_assoc]
    · rfl
    · exact nofun

end

mutual

theorem Value.prettyChars_eq : ∀ (v : Value) (depth : ℕ),
    v.prettyChars depth = v.charsIn .indented depth
  | .null, _ => rfl
  | .boolean _, _ => rfl
  | .number _, _ => rfl
  | .string _, _ => rfl
  | .list [], _ => rfl
  | .list (v :: vs), depth => by
    rw [Value.prettyChars, Value.charsIn, ← prettyElements_eq (v :: vs) (depth + 1) true nofun,
      List.append_assoc]
    rfl
  | .object [], _ => rfl
  | .object (m :: ms), depth => by
    rw [Value.prettyChars, Value.charsIn, ← prettyMembers_eq (m :: ms) (depth + 1) true nofun,
      List.append_assoc]
    rfl

theorem prettyElements_eq : ∀ (vs : List Value) (depth : ℕ) (first : Bool), vs ≠ [] →
    comma first ++ prettyElements depth vs = elementsIn .indented depth first vs
  | [], _, _, h => absurd rfl h
  | [v], depth, first, _ => by
    rw [elementsIn, ← Value.prettyChars_eq v depth, elementsIn, List.append_nil]
    rfl
  | v :: w :: vs, depth, first, _ => by
    rw [elementsIn, ← Value.prettyChars_eq v depth, ← prettyElements_eq (w :: vs) depth false nofun,
      prettyElements, List.append_assoc]
    · rfl
    · exact nofun

theorem prettyMembers_eq : ∀ (ms : List (String × Value)) (depth : ℕ) (first : Bool), ms ≠ [] →
    comma first ++ prettyMembers depth ms = membersIn .indented depth first ms
  | [], _, _, h => absurd rfl h
  | [(k, v)], depth, first, _ => by
    rw [membersIn, ← Value.prettyChars_eq v depth, membersIn, List.append_nil, prettyMembers,
      List.append_assoc]
    rfl
  | (k, v) :: m :: ms, depth, first, _ => by
    rw [membersIn, ← Value.prettyChars_eq v depth, ← prettyMembers_eq (m :: ms) depth false nofun,
      prettyMembers, List.append_assoc, List.append_assoc]
    · rfl
    · exact nofun

end

end StarSurvey.Json
