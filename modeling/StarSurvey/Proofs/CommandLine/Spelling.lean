import Mathlib.Data.List.Forall2
import StarSurvey.CommandLine.Arguments

/-!
# The two spellings of a long flag

- **One token** (`normalizeToken_of_isSingleDashed`, `normalizeToken_of_not`): a dash is put before
  a token that names a flag by its long name behind one dash, alone or with a value behind an equals
  sign. All other tokens stay as they are.
- **Look-alikes** (`not_isSingleDashed_extend`): no long name is the beginning of another one, so a
  token that goes on behind a name, other than by an equals sign, names no flag.
- **Command lines** (`normalize_unifies_spellings`): two command lines become the same if and only if
  they differ in nothing but these dashes, and then they are read alike.
-/

namespace StarSurvey.CommandLine

/-! ## Long names -/

namespace Flag

theorem ofLong?_eq_some_iff {name : String} {f : Flag} : ofLong? name = some f ↔ name = f.long := by
  constructor
  · intro h
    have hlong := List.find?_some h
    exact (beq_iff_eq.mp hlong).symm
  · rintro rfl
    cases f <;> decide

theorem isSome_ofLong?_iff {name : String} : (ofLong? name).isSome ↔ ∃ f : Flag, name = f.long := by
  rw [Option.isSome_iff_exists]
  exact exists_congr fun _ => ofLong?_eq_some_iff

/-- Neither a dash nor an equals sign can be mistaken for a part of a long name. -/
theorem long_ne (f : Flag) : '=' ∉ f.long.toList ∧ f.long.toList.head? ≠ some '-' := by
  cases f <;> decide

/-- No long name is the beginning of another one. -/
theorem eq_of_prefix_long {f g : Flag} (h : f.long.toList <+: g.long.toList) : f = g := by
  revert h
  cases f <;> cases g <;> decide

end Flag

/-! ## One token -/

/-- What may stand behind the name of a flag: nothing, or a value behind an equals sign. -/
def IsTail (tail : String) : Prop := tail = "" ∨ ∃ value, tail = "=" ++ value

/-- A token that names a flag by its long name behind one dash. -/
def IsSingleDashed (token : String) : Prop :=
  ∃ (f : Flag) (tail : String), IsTail tail ∧ token = "-" ++ f.long ++ tail

theorem isTail_iff {tail : String} :
    IsTail tail ↔ tail.toList = [] ∨ ∃ value, tail.toList = '=' :: value := by
  constructor
  · rintro (rfl | ⟨value, rfl⟩)
    · exact .inl rfl
    · exact .inr ⟨value.toList, by simp⟩
  · rintro (h | ⟨value, h⟩)
    · exact .inl (String.toList_inj.mp h)
    · exact .inr ⟨String.ofList value, String.toList_inj.mp (by simpa using h)⟩

/-- The name in a token is what stands before the first equals sign. -/
theorem takeWhile_eq_iff {name cs : List Char} (hname : '=' ∉ name) :
    cs.takeWhile (· ≠ '=') = name ↔
      ∃ tail, (tail = [] ∨ ∃ value, tail = '=' :: value) ∧ cs = name ++ tail := by
  constructor
  · rintro rfl
    refine ⟨cs.dropWhile (· ≠ '='), ?_, (List.takeWhile_append_dropWhile).symm⟩
    cases h : cs.dropWhile (· ≠ '=') with
    | nil => exact .inl rfl
    | cons c rest =>
      have hc := List.head_dropWhile_not (fun d => decide (d ≠ '=')) (w := h ▸ List.cons_ne_nil c rest)
      simp only [h, List.head_cons] at hc
      exact .inr ⟨rest, by simpa using hc⟩
  · rintro ⟨tail, htail, rfl⟩
    have hall : ∀ c ∈ name, decide (c ≠ '=') = true := by
      intro c hc
      rw [decide_eq_true_eq]
      rintro rfl
      exact hname hc
    rw [List.takeWhile_append_of_pos hall]
    rcases htail with rfl | ⟨value, rfl⟩ <;> simp

/-- Behind one dash a name stands before the first equals sign. -/
theorem isSingleDashed_iff {token : String} :
    IsSingleDashed token ↔ ∃ rest, token.toList = '-' :: rest ∧
      ∃ f : Flag, String.ofList (rest.takeWhile (· ≠ '=')) = f.long := by
  have hname (f : Flag) (rest : List Char) : String.ofList (rest.takeWhile (· ≠ '=')) = f.long ↔
      ∃ tail, IsTail tail ∧ rest = f.long.toList ++ tail.toList := by
    rw [← String.toList_inj, String.toList_ofList, takeWhile_eq_iff f.long_ne.1]
    constructor
    · rintro ⟨tail, htail, h⟩
      exact ⟨String.ofList tail, isTail_iff.mpr (by simpa using htail), by simpa using h⟩
    · rintro ⟨tail, htail, h⟩
      exact ⟨tail.toList, isTail_iff.mp htail, h⟩
  simp only [hname]
  constructor
  · rintro ⟨f, tail, htail, rfl⟩
    exact ⟨f.long.toList ++ tail.toList, by simp, f, tail, htail, rfl⟩
  · rintro ⟨_, htoken, f, tail, htail, rfl⟩
    exact ⟨f, tail, htail, String.toList_inj.mp (by simpa using htoken)⟩

/-- A token with a name behind one dash, alone or with a value, is respelled exactly if the name is
that of a flag. -/
theorem isSingleDashed_name_iff {name tail : String} (hname : '=' ∉ name.toList)
    (htail : IsTail tail) : IsSingleDashed ("-" ++ name ++ tail) ↔ ∃ f : Flag, name = f.long := by
  have hrest : (name.toList ++ tail.toList).takeWhile (· ≠ '=') = name.toList :=
    (takeWhile_eq_iff hname).mpr ⟨_, isTail_iff.mp htail, rfl⟩
  rw [isSingleDashed_iff]
  constructor
  · rintro ⟨rest, htoken, f, hf⟩
    obtain rfl : rest = name.toList ++ tail.toList := by simpa using htoken.symm
    rw [hrest, String.ofList_toList] at hf
    exact ⟨f, hf⟩
  · rintro ⟨f, hf⟩
    exact ⟨name.toList ++ tail.toList, by simp, f, by rw [hrest, String.ofList_toList, hf]⟩

/-- What goes on behind a long name, other than by an equals sign, is no value, and the whole is no
other name. -/
theorem not_isSingleDashed_extend (f : Flag) {c : Char} (hc : c ≠ '=') (more : String) :
    ¬ IsSingleDashed ("-" ++ f.long ++ String.singleton c ++ more) := by
  rintro ⟨g, tail, htail, heq⟩
  have hchars : f.long.toList ++ c :: more.toList = g.long.toList ++ tail.toList := by
    simpa using congrArg String.toList heq
  obtain rfl : f = g := by
    have hf : f.long.toList <+: g.long.toList ++ tail.toList := ⟨_, hchars⟩
    rcases List.prefix_or_prefix_of_prefix hf (List.prefix_append _ _) with h | h
    · exact Flag.eq_of_prefix_long h
    · exact (Flag.eq_of_prefix_long h).symm
  rw [List.append_cancel_left_eq] at hchars
  rcases isTail_iff.mp htail with h | ⟨value, h⟩
  · rw [h] at hchars
    cases hchars
  · rw [h] at hchars
    exact hc (List.cons.inj hchars).1

theorem not_isSingleDashed_of_head {token : String} (h : token.toList.head? ≠ some '-') :
    ¬ IsSingleDashed token := by
  rw [isSingleDashed_iff]
  rintro ⟨rest, htoken, -⟩
  rw [htoken] at h
  exact h rfl

theorem not_isSingleDashed_double (body : String) : ¬ IsSingleDashed ("--" ++ body) := by
  rintro ⟨f, tail, -, heq⟩
  have hchars : '-' :: body.toList = f.long.toList ++ tail.toList := by
    simpa using congrArg String.toList heq
  cases f <;> simp [Flag.long] at hchars

theorem normalizeToken_of_isSingleDashed {token : String} (h : IsSingleDashed token) :
    normalizeToken token = "-" ++ token := by
  obtain ⟨rest, htoken, f, hf⟩ := isSingleDashed_iff.mp h
  unfold normalizeToken
  split
  · rename_i body hbody
    have hdouble : token = "--" ++ String.ofList body := String.toList_inj.mp (by simpa using hbody)
    exact absurd (hdouble ▸ h) (not_isSingleDashed_double _)
  · rename_i rest' _ hrest'
    obtain rfl : rest = rest' := (List.cons.inj (htoken.symm.trans hrest')).2
    rw [if_pos (Flag.isSome_ofLong?_iff.mpr ⟨f, hf⟩)]
  · rename_i hnone
    exact absurd htoken (hnone rest)

theorem normalizeToken_of_not {token : String} (h : ¬ IsSingleDashed token) :
    normalizeToken token = token := by
  unfold normalizeToken
  split
  · rfl
  · rename_i rest _ hrest
    rw [if_neg]
    rw [Flag.isSome_ofLong?_iff]
    exact fun hf => h (isSingleDashed_iff.mpr ⟨rest, hrest, hf⟩)
  · rfl

/-! ## Command lines -/

/-- Tokens that differ at most in the dashes in front of the long name of a flag. -/
inductive SpelledAlike : String → String → Prop
  | same (token : String) : SpelledAlike token token
  | doubled (f : Flag) (tail : String) : IsTail tail →
    SpelledAlike ("-" ++ f.long ++ tail) ("--" ++ f.long ++ tail)
  | single (f : Flag) (tail : String) : IsTail tail →
    SpelledAlike ("--" ++ f.long ++ tail) ("-" ++ f.long ++ tail)

/-- How a token is left: with a dash more if it names a flag behind one dash, else as it is. -/
def Respelled (token token' : String) : Prop :=
  (IsSingleDashed token ∧ token' = "-" ++ token) ∨ (¬ IsSingleDashed token ∧ token' = token)

theorem respelled_normalizeToken (token : String) : Respelled token (normalizeToken token) := by
  by_cases h : IsSingleDashed token
  · exact .inl ⟨h, normalizeToken_of_isSingleDashed h⟩
  · exact .inr ⟨h, normalizeToken_of_not h⟩

theorem normalizeToken_single (f : Flag) {tail : String} (htail : IsTail tail) :
    normalizeToken ("-" ++ f.long ++ tail) = "--" ++ f.long ++ tail := by
  rw [normalizeToken_of_isSingleDashed ⟨f, tail, htail, rfl⟩]
  apply String.toList_inj.mp
  simp

theorem normalizeToken_double (body : String) : normalizeToken ("--" ++ body) = "--" ++ body :=
  normalizeToken_of_not (not_isSingleDashed_double body)

theorem normalizeToken_normalizeToken (token : String) :
    normalizeToken (normalizeToken token) = normalizeToken token := by
  by_cases h : IsSingleDashed token
  · obtain ⟨f, tail, htail, rfl⟩ := h
    rw [normalizeToken_single f htail, String.append_assoc, normalizeToken_double]
  · rw [normalizeToken_of_not h, normalizeToken_of_not h]

/-- Another dash in front of a token that names a flag behind one dash spells it the other way. -/
theorem SpelledAlike.of_isSingleDashed {token : String} (h : IsSingleDashed token) :
    SpelledAlike token ("-" ++ token) ∧ SpelledAlike ("-" ++ token) token := by
  obtain ⟨f, tail, htail, rfl⟩ := h
  have hdouble : "-" ++ ("-" ++ f.long ++ tail) = "--" ++ f.long ++ tail :=
    String.toList_inj.mp (by simp)
  rw [hdouble]
  exact ⟨.doubled f tail htail, .single f tail htail⟩

theorem normalizeToken_eq_iff {token token' : String} :
    normalizeToken token = normalizeToken token' ↔ SpelledAlike token token' := by
  constructor
  · intro heq
    rcases respelled_normalizeToken token with ⟨h, hto⟩ | ⟨h, hto⟩ <;>
      rcases respelled_normalizeToken token' with ⟨h', hto'⟩ | ⟨h', hto'⟩ <;>
      rw [hto, hto'] at heq
    · obtain rfl : token = token' := by simpa using heq
      exact .same token
    · exact heq ▸ (SpelledAlike.of_isSingleDashed h).1
    · exact heq ▸ (SpelledAlike.of_isSingleDashed h').2
    · exact heq ▸ .same token
  · rintro (_ | ⟨f, tail, htail⟩ | ⟨f, tail, htail⟩)
    · rfl
    · rw [normalizeToken_single f htail, String.append_assoc, normalizeToken_double]
    · rw [normalizeToken_single f htail, String.append_assoc, normalizeToken_double]

theorem normalize_eq_iff {line line' : List String} :
    normalize line = normalize line' ↔ List.Forall₂ SpelledAlike line line' := by
  rw [normalize, normalize, ← List.forall₂_eq_eq_eq, List.forall₂_map_left_iff,
    List.forall₂_map_right_iff]
  simp only [normalizeToken_eq_iff]

/-- Reading looks at the tokens as they are respelled. -/
theorem read_eq_of_normalize_eq {line line' : List String} (h : normalize line = normalize line') :
    read line = read line' := by
  unfold read
  rw [h]

/-- **The spelling of long flags.** Command lines that differ in nothing but one dash or two before
long names of flags, with or without a value behind an equals sign, are respelled to one and the same
line, and no others are; so they are read alike, with the same arguments or for the same reason with
none. A line that is respelled stays as it is. It has the tokens of the old one in their order, each
with a dash more if it names a flag behind one dash, and else unchanged. To name a flag, all that
stands between the dash and the first equals sign has to be its long name: what begins otherwise, has
two dashes, has another name or goes on behind the name does not. -/
theorem normalize_unifies_spellings (line : List String) :
    (∀ line', normalize line = normalize line' ↔ List.Forall₂ SpelledAlike line line') ∧
    (∀ line', List.Forall₂ SpelledAlike line line' → read line = read line') ∧
    normalize (normalize line) = normalize line ∧
    (normalize line).length = line.length ∧
    List.Forall₂ Respelled line (normalize line) ∧
    (∀ token : String, token.toList.head? ≠ some '-' → ¬ IsSingleDashed token) ∧
    (∀ body : String, ¬ IsSingleDashed ("--" ++ body)) ∧
    (∀ name tail : String, '=' ∉ name.toList → IsTail tail →
      (IsSingleDashed ("-" ++ name ++ tail) ↔ ∃ f : Flag, name = f.long)) ∧
    (∀ (f : Flag) (c : Char) (more : String), c ≠ '=' →
      ¬ IsSingleDashed ("-" ++ f.long ++ String.singleton c ++ more)) := by
  refine ⟨fun line' => normalize_eq_iff, ?_, ?_, List.length_map _, ?_, ?_, not_isSingleDashed_double,
    ?_, ?_⟩
  · intro line' h
    exact read_eq_of_normalize_eq (normalize_eq_iff.mpr h)
  · unfold normalize
    rw [List.map_map]
    exact List.map_congr_left fun token _ => normalizeToken_normalizeToken token
  · unfold normalize
    rw [List.forall₂_map_right_iff, List.forall₂_same]
    exact fun token _ => respelled_normalizeToken token
  · exact fun token => not_isSingleDashed_of_head
  · exact fun name tail => isSingleDashed_name_iff
  · exact fun f c more hc => not_isSingleDashed_extend f hc more

/-- Three tokens are spelled in another way; a token that only looks like a flag, and the value of
one, are left. -/
theorem normalize_unifies_spellings_of_three_tokens :
    let line := ["galaxy-collector", "-nodes=a:1,b=2", "--output", "-", "-config.toml", "-version"]
    let line' := ["galaxy-collector", "--nodes=a:1,b=2", "-output", "-", "-config.toml", "--version"]
    List.Forall₂ SpelledAlike line line' ∧ normalize line = normalize line' ∧
      read line = read line' ∧ ¬ IsSingleDashed "-config.toml" ∧ ¬ IsSingleDashed "-o" ∧
      ¬ IsSingleDashed "galaxy-collector" ∧ IsSingleDashed "-nodes=a:1,b=2" := by
  intro line line'
  obtain ⟨hiff, hread, -, -, -, hhead, -, hname, hextend⟩ := normalize_unifies_spellings line
  have htail : IsTail "=a:1,b=2" := .inr ⟨"a:1,b=2", rfl⟩
  have halike : List.Forall₂ SpelledAlike line line' :=
    .cons (.same _) (.cons (.doubled .nodes "=a:1,b=2" htail) (.cons (.single .output "" (.inl rfl))
      (.cons (.same _) (.cons (.same _) (.cons (.doubled .version "" (.inl rfl)) .nil)))))
  have hshort : ¬ ∃ f : Flag, "o" = f.long := by
    rintro ⟨f, hf⟩
    cases f <;> revert hf <;> decide
  exact ⟨halike, (hiff line').mpr halike, hread line' halike,
    hextend .config '.' "toml" (by decide), mt (hname "o" "" (by decide) (.inl rfl)).mp hshort,
    hhead _ (by decide), (hname "nodes" "=a:1,b=2" (by decide) htail).mpr ⟨.nodes, rfl⟩⟩

end StarSurvey.CommandLine
