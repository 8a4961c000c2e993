import StarSurvey.Proofs.CommandLine.Spelling
import StarSurvey.Proofs.Partial

/-!
# The occurrences of flags on a command line

A command line that is read is a row of flags, each with its value in the same token or in the next
one. It says what these occurrences say in their order, in whatever way they are spelled.

- **Tokens** (`Calls`, `Carries`, `IsValue`): what a token is, by itself. Which one it is decides how it
  is taken (`take_calls`, `take_carries`, `take_value`), and nothing else is taken (`kind_of_take`).
- **Command lines** (`Spelled`): the tokens that spell some occurrences, one behind the other.
- **Reading** (`Spelled.readOn_eq`, `exists_spelled`): spelled occurrences are settled one after the
  other, and only such tokens are read; so it is with lines (`read_eq_ok_iff`, `exists_isLineOf`).
- **Separation** (`foldlM_set_eq`, `read_eq_ok_iff_apart`): the nodes are gathered apart from what the
  other flags say.
-/

namespace StarSurvey.CommandLine

/-! ## Tokens -/

/-- A flag with a value that it is given. -/
structure Occurrence where
  flag : Flag
  value : String
  deriving DecidableEq

/-- A token that names a flag and leaves its value to the next one. -/
inductive Calls : Flag → String → Prop where
  | double (f : Flag) : Calls f ("--" ++ f.long)
  | single (f : Flag) : Calls f ("-" ++ f.long)
  | short {f : Flag} {c : Char} (h : f.short? = some c) : Calls f (String.ofList ['-', c])

/-- A token that names a flag and has its value as well: behind an equals sign, or right behind the
letter of the flag, unless the whole is the long name of one. -/
inductive Carries : Occurrence → String → Prop where
  | equals {f : Flag} {name : String} (h : Calls f name) (value : String) :
    Carries ⟨f, value⟩ (name ++ "=" ++ value)
  | behind {f : Flag} {c d : Char} {cs : List Char} (h : f.short? = some c) (hd : d ≠ '=')
    (hname : ¬ IsSingleDashed (String.ofList ('-' :: c :: d :: cs))) :
    Carries ⟨f, String.ofList (d :: cs)⟩ (String.ofList ('-' :: c :: d :: cs))

/-- A token that can only be the value of the flag in front of it: no dash stands in front of it, or
it is nothing but a dash. -/
def IsValue (token : String) : Prop := token.toList.head? = some '-' → token = "-"

instance : DecidablePred IsValue := fun _ => inferInstanceAs (Decidable (_ → _))

namespace Flag

theorem ofShort?_eq_some_iff {c : Char} {f : Flag} : ofShort? c = some f ↔ f.short? = some c := by
  constructor
  · intro h
    have hshort := List.find?_some h
    exact beq_iff_eq.mp hshort
  · intro h
    cases f <;> cases h <;> decide

/-- The letter of a flag is neither a dash nor a long name. -/
theorem short_ne {f : Flag} {c : Char} (h : f.short? = some c) :
    c ≠ '-' ∧ c ≠ '=' ∧ ∀ g : Flag, String.singleton c ≠ g.long := by
  revert h
  cases f <;> intro h <;> cases h <;> refine ⟨by decide, by decide, fun g => ?_⟩ <;>
    cases g <;> decide

end Flag

theorem not_isSingleDashed_short {f : Flag} {c : Char} (h : f.short? = some c) {tail : String}
    (htail : IsTail tail) : ¬ IsSingleDashed (String.ofList ['-', c] ++ tail) := by
  obtain ⟨-, hequals, hlong⟩ := Flag.short_ne h
  have htoken : String.ofList ['-', c] ++ tail = "-" ++ String.singleton c ++ tail :=
    String.toList_inj.mp (by simp)
  rw [htoken, isSingleDashed_name_iff (by simpa using hequals.symm) htail]
  rintro ⟨g, hg⟩
  exact hlong g hg

/-! ### How a token is taken -/

section Take

variable {calledAs : String} {s s' : State} {f : Flag} (hs : s.flagsOver = false)

include hs

/-- Two dashes with a name behind them, and with a value behind an equals sign. -/
theorem take_double {tail : String} (htail : IsTail tail) :
    s.take calledAs ("--" ++ f.long ++ tail) =
      s.takeFlag calledAs f (if tail = "" then none else some (String.ofList tail.toList.tail)) := by
  have htoken : ("--" ++ f.long ++ tail).toList = '-' :: '-' :: (f.long.toList ++ tail.toList) := by
    simp
  have hne : f.long.toList ++ tail.toList ≠ [] := by cases f <;> exact List.cons_ne_nil _ _
  have hname : (f.long.toList ++ tail.toList).takeWhile (· ≠ '=') = f.long.toList :=
    (takeWhile_eq_iff f.long_ne.1).mpr ⟨_, isTail_iff.mp htail, rfl⟩
  have hflag : Flag.ofLong? f.long = some f := Flag.ofLong?_eq_some_iff.mpr rfl
  unfold State.take
  rw [hs, if_neg Bool.false_ne_true, htoken]
  split
  · rename_i heq
    exact absurd (List.cons.inj (List.cons.inj heq).2).2 hne
  · rename_i heq
    obtain rfl := (List.cons.inj (List.cons.inj heq).2).2
    dsimp only
    rw [hname, String.ofList_toList, hflag]
    rcases htail with rfl | ⟨value, rfl⟩ <;> simp
  · rename_i hletter heq
    exact (hletter (List.cons.inj (List.cons.inj heq).2).1.symm).elim
  · rename_i hnone
    exact absurd rfl (hnone _ _)

/-- A dash with the letter of a flag, and what stands behind it. -/
theorem take_letter {c : Char} (hc : f.short? = some c) (htakes : f.takesValue = true)
    (body : List Char) : s.take calledAs (String.ofList ('-' :: c :: body)) =
      s.takeFlag calledAs f (Option.map String.ofList (match body with
        | [] => none
        | '=' :: value => some value
        | value => some value)) := by
  have hflag := Flag.ofShort?_eq_some_iff.mpr hc
  have hdash := (Flag.short_ne hc).1
  unfold State.take
  rw [hs, if_neg Bool.false_ne_true, String.toList_ofList]
  split
  · rename_i heq
    cases heq
    exact absurd rfl hdash
  · rename_i heq
    cases heq
    exact absurd rfl hdash
  · rename_i heq
    cases heq
    rw [hflag]
    exact if_pos htakes
  · rename_i hnone
    exact absurd rfl (hnone c body)

theorem take_calls {token : String} (h : Calls f token) (htakes : f.takesValue = true) {tail : String}
    (htail : IsTail tail) : s.take calledAs (normalizeToken (token ++ tail)) =
      s.takeFlag calledAs f (if tail = "" then none else some (String.ofList tail.toList.tail)) := by
  cases h with
  | double => rw [String.append_assoc, normalizeToken_double, ← String.append_assoc, take_double hs htail]
  | single => rw [normalizeToken_single f htail, take_double hs htail]
  | @short c hc =>
    rw [normalizeToken_of_not (not_isSingleDashed_short hc htail)]
    have htoken : String.ofList ['-', c] ++ tail = String.ofList ('-' :: c :: tail.toList) :=
      String.toList_inj.mp (by simp)
    rw [htoken, take_letter hs hc htakes]
    rcases htail with rfl | ⟨value, rfl⟩ <;> simp

theorem take_carries {o : Occurrence} {token : String} (h : Carries o token)
    (htakes : o.flag.takesValue = true) :
    s.take calledAs (normalizeToken token) = s.takeFlag calledAs o.flag (some o.value) := by
  cases h with
  | equals hname value =>
    rw [String.append_assoc, take_calls hs hname htakes (.inr ⟨value, rfl⟩)]
    simp
  | behind hc hd hname =>
    rw [normalizeToken_of_not hname, take_letter hs hc htakes]
    split
    · rename_i heq
      cases heq
    · rename_i heq
      exact absurd (List.cons.inj heq).1 hd
    · rfl

theorem take_value {token : String} (h : IsValue token) :
    s.take calledAs (normalizeToken token) = s.takeValue token := by
  have hnone : ∀ c cs, token.toList ≠ '-' :: c :: cs := by
    intro c cs htoken
    rw [h (by rw [htoken]; rfl)] at htoken
    cases htoken
  have hname : ¬ IsSingleDashed token := by
    rw [isSingleDashed_iff]
    rintro ⟨rest, htoken, f, hf⟩
    cases rest with
    | nil => exact absurd hf (by cases f <;> decide)
    | cons c cs => exact hnone c cs htoken
  unfold State.take
  rw [normalizeToken_of_not hname, hs, if_neg Bool.false_ne_true]
  split
  · rename_i heq
    exact absurd heq (hnone _ _)
  · rename_i heq
    exact absurd heq (hnone _ _)
  · rename_i heq
    exact absurd heq (hnone _ _)
  · rfl

theorem take_mark :
    s.take calledAs (normalizeToken "--") = .ok { s with flagsOver := true } := by
  have hsame : normalizeToken "--" = "--" := normalizeToken_double ""
  rw [hsame]
  unfold State.take
  rw [hs]
  rfl

/-- What a token is that is taken: the mark behind which no flags are, a value, or a flag. -/
inductive Kind (token : String) : Prop where
  | mark (h : token = "--")
  | value (h : IsValue token)
  | calls (f : Flag) (htakes : f.takesValue = true) (h : Calls f token)
  | carries (o : Occurrence) (htakes : o.flag.takesValue = true) (h : Carries o token)

omit hs in
theorem takesValue_of_takeFlag {attached : Option String}
    (h : s.takeFlag calledAs f attached = .ok s') : f.takesValue = true := by
  unfold State.takeFlag at h
  split at h
  · cases h
  · obtain ⟨a, -, hf⟩ := bind_eq_ok_iff.mp h
    split_ifs at hf
  · assumption
  · assumption

omit hs in
theorem Calls.kind {name tail : String} (h : Calls f name) (htakes : f.takesValue = true)
    (htail : IsTail tail) : Kind (name ++ tail) := by
  rcases htail with rfl | ⟨value, rfl⟩
  · rw [String.append_empty]
    exact .calls f htakes h
  · rw [← String.append_assoc]
    exact .carries _ htakes (.equals h value)

/-- No other token is taken. -/
theorem kind_of_take {token : String} (h : s.take calledAs (normalizeToken token) = .ok s') :
    Kind token := by
  by_cases hname : IsSingleDashed token
  · obtain ⟨f, tail, htail, rfl⟩ := hname
    rw [normalizeToken_single f htail, take_double hs htail] at h
    exact (Calls.single f).kind (takesValue_of_takeFlag h) htail
  · rw [normalizeToken_of_not hname] at h
    unfold State.take at h
    rw [hs, if_neg Bool.false_ne_true] at h
    split at h
    · rename_i htoken
      exact .mark (String.toList_inj.mp htoken)
    · rename_i body _ htoken
      dsimp only at h
      split at h
      · rename_i f hf
        have hlong := congrArg String.toList (Flag.ofLong?_eq_some_iff.mp hf)
        rw [String.toList_ofList] at hlong
        obtain ⟨tail, htail, rfl⟩ := (takeWhile_eq_iff f.long_ne.1).mp hlong
        have hdouble : token = "--" ++ f.long ++ String.ofList tail :=
          String.toList_inj.mp (by simpa using htoken)
        rw [hdouble]
        exact (Calls.double f).kind (takesValue_of_takeFlag h) (isTail_iff.mpr (by simpa using htail))
      · cases h
    · rename_i c body _ _ htoken
      obtain rfl : String.ofList ('-' :: c :: body) = token := String.toList_inj.mp (by simp [htoken])
      dsimp only at h
      split at h
      · rename_i f hf
        have hc := Flag.ofShort?_eq_some_iff.mp hf
        split at h
        · rename_i htakes
          cases body with
          | nil => exact .calls f htakes (.short hc)
          | cons d value =>
            by_cases hd : d = '='
            · have hequals := (Calls.short hc).kind htakes (.inr ⟨String.ofList value, rfl⟩)
              have htoken : String.ofList ['-', c] ++ ("=" ++ String.ofList value) =
                  String.ofList ('-' :: c :: d :: value) := String.toList_inj.mp (by simp [hd])
              rwa [htoken] at hequals
            · exact .carries ⟨f, _⟩ htakes (.behind hc hd hname)
        · rename_i htakes
          exact absurd (takesValue_of_takeFlag h) htakes
      · cases h
    · rename_i hnone
      refine .value fun hhead => ?_
      cases htoken : token.toList with
      | nil => rw [htoken] at hhead; cases hhead
      | cons c rest =>
        rw [htoken] at hhead
        cases rest with
        | nil => exact String.toList_inj.mp (by rw [htoken, Option.some.inj hhead]; rfl)
        | cons d cs => exact (hnone d cs (by rw [htoken, Option.some.inj hhead])).elim

end Take

/-! ## Command lines -/

/-- Tokens that spell occurrences of flags, one behind the other. At the end there may be the mark
behind which no flags are. -/
inductive Spelled : List Occurrence → List String → Prop where
  | nil : Spelled [] []
  | mark : Spelled [] ["--"]
  | apart {o : Occurrence} {os : List Occurrence} {name : String} {tokens : List String}
      (htakes : o.flag.takesValue = true) (hname : Calls o.flag name) (hvalue : IsValue o.value)
      (more : Spelled os tokens) : Spelled (o :: os) (name :: o.value :: tokens)
  | joined {o : Occurrence} {os : List Occurrence} {token : String} {tokens : List String}
      (htakes : o.flag.takesValue = true) (h : Carries o token) (more : Spelled os tokens) :
    Spelled (o :: os) (token :: tokens)

/-- Takes what an occurrence says. -/
def Occurrence.set (a : Arguments) (o : Occurrence) : Except Stop Arguments :=
  setFlag a o.flag o.value

/-- Tokens are taken from a state on, and what waits in the end is settled. -/
def State.readOn (calledAs : String) (s : State) (tokens : List String) : Except Stop Arguments :=
  tokens.foldlM (State.take calledAs) s >>= State.settle

section Reading

variable {calledAs : String} {s s' : State} {os : List Occurrence} {tokens : List String}
  {a : Arguments}

theorem State.readOn_cons (token : String) :
    s.readOn calledAs (token :: tokens) =
      s.take calledAs token >>= fun s' => s'.readOn calledAs tokens := by
  rw [readOn, List.foldlM_cons, bind_assoc]
  rfl

/-- A flag waits for its value once that is settled which waits before it. -/
theorem takeFlag_none {f : Flag} (htakes : f.takesValue = true) :
    s.takeFlag calledAs f none = s.settle >>= fun a => .ok ⟨a, some ⟨f, none⟩, s.flagsOver⟩ := by
  unfold State.takeFlag
  rw [htakes]
  rfl

theorem takeFlag_some {f : Flag} (htakes : f.takesValue = true) (value : String) :
    s.takeFlag calledAs f (some value) =
      s.settle >>= fun a => setFlag a f value >>= fun b => .ok ⟨b, none, s.flagsOver⟩ := by
  unfold State.takeFlag
  rw [htakes]
  rfl

/-- Whatever waits, it is settled first, and then the occurrences are, in their order. -/
theorem Spelled.readOn_eq (h : Spelled os tokens) (hs : s.flagsOver = false) :
    s.readOn calledAs (tokens.map normalizeToken) =
      s.settle >>= fun a => os.foldlM Occurrence.set a := by
  induction h generalizing s with
  | nil => exact (bind_pure _).symm
  | mark =>
    rw [List.map_cons, State.readOn_cons, take_mark hs]
    exact (bind_pure _).symm
  | @apart o os name tokens htakes hname hvalue _ ih =>
    have hcalls : s.take calledAs _ = _ := take_calls hs hname htakes (.inl rfl)
    rw [String.append_empty, if_pos rfl, takeFlag_none htakes] at hcalls
    rw [List.map_cons, State.readOn_cons, hcalls, bind_assoc]
    refine bind_congr fun a => ?_
    have hwaits : State.flagsOver ⟨a, some ⟨o.flag, none⟩, s.flagsOver⟩ = false := hs
    show State.readOn calledAs ⟨a, some ⟨o.flag, none⟩, s.flagsOver⟩ _ = _
    rw [List.map_cons, State.readOn_cons, take_value hwaits hvalue, List.foldlM_cons]
    exact ih hs
  | joined htakes h _ ih =>
    rw [List.map_cons, State.readOn_cons, take_carries hs h htakes, takeFlag_some htakes]
    simp only [bind_assoc]
    refine bind_congr fun a => ?_
    rw [List.foldlM_cons]
    refine bind_congr fun b => ?_
    exact ih hs

/-- A flag waits whose value is not there yet. -/
def State.Lacks (s : State) : Prop := ∃ f, s.waiting = some ⟨f, none⟩

/-- What lacks its value cannot be settled. -/
theorem State.not_lacks_of_settle (h : s.settle = .ok a) : ¬ s.Lacks := by
  rintro ⟨f, hf⟩
  unfold settle at h
  rw [hf] at h
  cases h

/-- Only what lacks its value takes one, and then it has it. -/
theorem State.lacks_of_takeValue {token : String} (h : s.takeValue token = .ok s') :
    s.Lacks ∧ ¬ s'.Lacks ∧ s'.flagsOver = s.flagsOver := by
  unfold takeValue at h
  split at h
  · rename_i f hf
    cases h
    refine ⟨⟨f, hf⟩, ?_, rfl⟩
    rintro ⟨g, hg⟩
    cases hg
  · cases h

/-- Behind the mark there is nothing. -/
theorem State.eq_nil_of_flagsOver (h : s.readOn calledAs tokens = .ok a) (hs : s.flagsOver = true) :
    tokens = [] := by
  cases tokens with
  | nil => rfl
  | cons token tokens =>
    rw [readOn_cons] at h
    unfold State.take at h
    rw [hs] at h
    cases h

/-- Tokens that are read spell occurrences, behind the value of the flag that waits for one. -/
theorem exists_spelled (h : s.readOn calledAs (tokens.map normalizeToken) = .ok a)
    (hs : s.flagsOver = false) :
    (¬ s.Lacks → ∃ os, Spelled os tokens) ∧
    (s.Lacks → ∃ value rest os, tokens = value :: rest ∧ IsValue value ∧ Spelled os rest) := by
  induction tokens generalizing s with
  | nil =>
    have hsettle : s.settle = .ok a := h
    exact ⟨fun _ => ⟨[], .nil⟩, fun hlacks => absurd hlacks (State.not_lacks_of_settle hsettle)⟩
  | cons token tokens ih =>
    rw [List.map_cons, State.readOn_cons, bind_eq_ok_iff] at h
    obtain ⟨s', htake, hmore⟩ := h
    cases kind_of_take hs htake with
    | mark htoken =>
      rw [htoken, take_mark hs] at htake
      cases htake
      obtain rfl : tokens = [] := by simpa using State.eq_nil_of_flagsOver hmore rfl
      have hsettle : s.settle = .ok a := hmore
      exact ⟨fun _ => ⟨[], htoken ▸ .mark⟩,
        fun hlacks => absurd hlacks (State.not_lacks_of_settle hsettle)⟩
    | value hvalue =>
      rw [take_value hs hvalue] at htake
      obtain ⟨hlacks, hnext, hover⟩ := State.lacks_of_takeValue htake
      obtain ⟨os, hos⟩ := (ih hmore (hover.trans hs)).1 hnext
      exact ⟨fun hnot => absurd hlacks hnot, fun _ => ⟨token, tokens, os, rfl, hvalue, hos⟩⟩
    | calls f htakes hcalls =>
      have hflag : s.take calledAs _ = _ := take_calls hs hcalls htakes (.inl rfl)
      rw [String.append_empty, if_pos rfl, takeFlag_none htakes, htake] at hflag
      obtain ⟨b, hsettle, hb⟩ := bind_eq_ok_iff.mp hflag.symm
      cases hb
      obtain ⟨value, rest, os, rfl, hvalue, hos⟩ := (ih hmore hs).2 ⟨f, rfl⟩
      exact ⟨fun _ => ⟨⟨f, value⟩ :: os, .apart htakes hcalls hvalue hos⟩,
        fun hlacks => absurd hlacks (State.not_lacks_of_settle hsettle)⟩
    | carries o htakes hcarries =>
      rw [take_carries hs hcarries htakes, takeFlag_some htakes] at htake
      obtain ⟨b, hsettle, hb⟩ := bind_eq_ok_iff.mp htake
      obtain ⟨c, -, hc⟩ := bind_eq_ok_iff.mp hb
      cases hc
      have hnext : ¬ State.Lacks ⟨c, none, s.flagsOver⟩ := by
        rintro ⟨f, hf⟩
        cases hf
      obtain ⟨os, hos⟩ := (ih hmore hs).1 hnext
      exact ⟨fun _ => ⟨o :: os, .joined htakes hcarries hos⟩,
        fun hlacks => absurd hlacks (State.not_lacks_of_settle hsettle)⟩

end Reading

/-- A command line that spells occurrences, behind the name of the program. -/
def IsLineOf (os : List Occurrence) (line : List String) : Prop :=
  ∃ name tokens, line = name :: tokens ∧ Spelled os tokens

section Line

variable {os : List Occurrence} {line : List String} {a b : Arguments}

theorem readTokens_eq (calledAs : String) (tokens : List String) :
    readTokens calledAs tokens = State.readOn calledAs ⟨.none, none, false⟩ tokens >>= fun a =>
      if a.nodes.isEmpty then .error .missingNodes else .ok a := by
  rw [readTokens, State.readOn, bind_assoc]
  rfl

/-- A command line is read as what its occurrences say, one after the other; some have to be nodes. -/
theorem read_eq_ok_iff (h : IsLineOf os line) :
    read line = .ok a ↔ os.foldlM Occurrence.set .none = .ok a ∧ a.nodes ≠ [] := by
  obtain ⟨name, tokens, rfl, htokens⟩ := h
  show readTokens _ (tokens.map normalizeToken) = .ok a ↔ _
  rw [readTokens_eq, htokens.readOn_eq rfl]
  show (os.foldlM Occurrence.set .none >>= fun a => _) = .ok a ↔ _
  rw [bind_eq_ok_iff]
  constructor
  · rintro ⟨b, hb, hok⟩
    split at hok
    · cases hok
    · rename_i hnodes
      cases hok
      exact ⟨hb, by simpa using hnodes⟩
  · rintro ⟨ha, hnodes⟩
    exact ⟨a, ha, if_neg (by simpa using hnodes)⟩

/-- Every command line that is read spells occurrences. -/
theorem exists_isLineOf (h : read line = .ok a) : ∃ os, IsLineOf os line := by
  cases line with
  | nil => cases h
  | cons name tokens =>
    have hread : readTokens _ (tokens.map normalizeToken) = .ok a := h
    rw [readTokens_eq, bind_eq_ok_iff] at hread
    obtain ⟨b, hb, -⟩ := hread
    have hlacks : ¬ State.Lacks ⟨.none, none, false⟩ := by
      rintro ⟨f, hf⟩
      cases hf
    obtain ⟨os, hos⟩ := (exists_spelled hb rfl).1 hlacks
    exact ⟨os, name, tokens, rfl, hos⟩

/-! ## Separation -/

/-- The values that a flag is given, in their order. -/
def valuesOf (f : Flag) (os : List Occurrence) : List String :=
  (os.filter fun o => o.flag = f).map Occurrence.value

/-- The occurrences of other flags. -/
def others (f : Flag) (os : List Occurrence) : List Occurrence := os.filter fun o => o.flag ≠ f

/-- Other nodes in place of those that are there. -/
def Arguments.withNodes (ns : List String) (a : Arguments) : Arguments := { a with nodes := ns }

theorem set_nodes {o : Occurrence} (h : o.flag = .nodes) :
    o.set a = .ok (a.withNodes (a.nodes ++ Text.split ',' o.value)) := by
  obtain ⟨f, value⟩ := o
  cases h
  rfl

/-- No other flag looks at the nodes. -/
theorem set_withNodes {o : Occurrence} (h : o.flag ≠ .nodes) (ns : List String) :
    o.set (a.withNodes ns) = Arguments.withNodes ns <$> o.set a := by
  obtain ⟨f, value⟩ := o
  have hhas : (a.withNodes ns).has f = a.has f := by cases f <;> rfl
  -- what is stored does not depend on the nodes, whatever it is made of
  have hstored : ∀ {α : Type} (x : Except Stop α) (put : Arguments → α → Arguments),
      (∀ c, put (a.withNodes ns) c = (put a c).withNodes ns) →
      x.map (put (a.withNodes ns)) = Arguments.withNodes ns <$> x.map (put a) := by
    intro α x put hput
    cases x with
    | error e => rfl
    | ok c => exact congrArg Except.ok (hput c)
  unfold Occurrence.set setFlag
  rw [hhas]
  dsimp only
  split
  · rfl
  · cases f with
    | nodes => exact absurd rfl h
    | output => exact hstored _ (fun a p => { a with output := some p }) fun _ => rfl
    | timeoutSecs => exact hstored _ (fun a n => { a with timeoutSecs := some n }) fun _ => rfl
    | maxInFlight => exact hstored _ (fun a n => { a with maxInFlight := some n }) fun _ => rfl
    | config => exact hstored _ (fun a p => { a with config := some p }) fun _ => rfl
    | logLevel | help | version => rfl

/-- So no other flag changes the nodes. -/
theorem nodes_of_set {o : Occurrence} (h : o.flag ≠ .nodes) (hset : o.set a = .ok b) :
    b.nodes = a.nodes := by
  have hsame : o.set a = Arguments.withNodes a.nodes <$> o.set a := set_withNodes h a.nodes
  rw [hset] at hsame
  have hb : b = b.withNodes a.nodes := Except.ok.inj hsame
  rw [hb]
  rfl

theorem foldlM_withNodes (h : ∀ o ∈ os, o.flag ≠ .nodes) (ns : List String) :
    os.foldlM Occurrence.set (a.withNodes ns) = Arguments.withNodes ns <$> os.foldlM Occurrence.set a := by
  induction os generalizing a with
  | nil => rfl
  | cons o os ih =>
    rw [List.foldlM_cons, List.foldlM_cons, set_withNodes (h o List.mem_cons_self), bind_map_left,
      map_bind]
    exact bind_congr fun b => ih fun o ho => h o (List.mem_cons_of_mem _ ho)

/-- The nodes are gathered apart from what the other flags say. -/
theorem foldlM_set_eq (os : List Occurrence) (a : Arguments) :
    os.foldlM Occurrence.set a =
      Arguments.withNodes (a.nodes ++ (valuesOf .nodes os).flatMap (Text.split ',')) <$>
        (others .nodes os).foldlM Occurrence.set a := by
  induction os generalizing a with
  | nil =>
    show Except.ok a = .ok { a with nodes := a.nodes ++ [] }
    rw [List.append_nil]
  | cons o os ih =>
    rw [List.foldlM_cons]
    by_cases ho : o.flag = .nodes
    · have hvalues : valuesOf .nodes (o :: os) = o.value :: valuesOf .nodes os := by
        simp [valuesOf, ho]
      have hothers : others .nodes (o :: os) = others .nodes os := by simp [others, ho]
      have hmore : ∀ p ∈ others .nodes os, p.flag ≠ .nodes := by simp [others]
      rw [set_nodes ho, hvalues, hothers, List.flatMap_cons, ← List.append_assoc]
      show os.foldlM Occurrence.set (a.withNodes _) = _
      rw [ih, foldlM_withNodes hmore, Functor.map_map]
      rfl
    · have hvalues : valuesOf .nodes (o :: os) = valuesOf .nodes os := by simp [valuesOf, ho]
      have hothers : others .nodes (o :: os) = o :: others .nodes os := by simp [others, ho]
      rw [hvalues, hothers, List.foldlM_cons]
      cases hset : o.set a with
      | error e => rfl
      | ok b =>
        rw [← nodes_of_set ho hset]
        exact ih b

theorem flatMap_split_eq_nil_iff {sep : Char} {values : List String} :
    values.flatMap (Text.split sep) = [] ↔ values = [] := by
  have hsplit : ∀ value, Text.split sep value ≠ [] := fun value => by
    simpa [Text.split] using Text.splitAt_ne_nil sep value.toList
  rw [List.flatMap_eq_nil_iff, List.eq_nil_iff_forall_not_mem]
  exact forall_congr' fun value => imp_iff_not (hsplit value)

/-- A command line is read if nodes are given and the other flags say something; the nodes are the
values that they are given, split at commas. -/
theorem read_eq_ok_iff_apart (hline : IsLineOf os line) :
    read line = .ok a ↔ valuesOf .nodes os ≠ [] ∧
      ∃ b, (others .nodes os).foldlM Occurrence.set .none = .ok b ∧
        a = { b with nodes := (valuesOf .nodes os).flatMap (Text.split ',') } := by
  rw [read_eq_ok_iff hline, foldlM_set_eq]
  cases (others .nodes os).foldlM Occurrence.set .none with
  | error e => simp
  | ok b =>
    show Except.ok (b.withNodes _) = .ok a ∧ a.nodes ≠ [] ↔ _
    constructor
    · rintro ⟨ha, hnodes⟩
      cases ha
      exact ⟨mt flatMap_split_eq_nil_iff.mpr hnodes, b, rfl, rfl⟩
    · rintro ⟨hvalues, c, hc, rfl⟩
      cases hc
      exact ⟨rfl, mt flatMap_split_eq_nil_iff.mp hvalues⟩

/-- Nodes may be given in any way beside the same other flags. -/
theorem read_of_same_others {os' : List Occurrence} {line' : List String} (hline : IsLineOf os line)
    (hline' : IsLineOf os' line') (hothers : others .nodes os' = others .nodes os)
    (hnodes : valuesOf .nodes os' ≠ []) (h : read line = .ok a) :
    read line' = .ok { a with nodes := (valuesOf .nodes os').flatMap (Text.split ',') } := by
  obtain ⟨-, b, hb, rfl⟩ := (read_eq_ok_iff_apart hline).mp h
  exact (read_eq_ok_iff_apart hline').mpr ⟨hnodes, b, hothers ▸ hb, rfl⟩

end Line

end StarSurvey.CommandLine
