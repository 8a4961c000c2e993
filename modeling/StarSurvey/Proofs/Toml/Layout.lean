import Mathlib.Data.List.TakeWhile
import StarSurvey.Proofs.Toml.FramedValues
import StarSurvey.Text.Blank

/-!
# The lines of a document

- **Statements** (`framed_content`): a statement is read from its line alone, whatever ends the line.
- **Layout** (`Layout`): the texts of a sequence of statements. Blank lines and comments stand between
  the lines, and a comment may stand behind each.
- **Documents** (`Entries.ofText?_eq_some_iff`): a text is a document if and only if it is laid out so
  and its statements are consistent.
-/

namespace StarSurvey.Toml

/-! ## Statements -/

/-- A statement without the end of its line. -/
def content : Reader Statement := do
  if ← accept ['[', '['] then
    let (path, last) ← key
    exactly [']', ']']
    pure (.arrayHeader path last)
  else if ← accept ['['] then
    let (path, last) ← key
    exactly [']']
    pure (.header path last)
  else
    let (path, last) ← key
    exactly ['=']
    blanks
    let v ← value maxDepth (2 * (← get).length + 2)
    pure (.assign path last v)

theorem statement_eq : statement = content >>= fun s => endOfStatement >>= fun _ => pure s := by
  unfold statement content
  simp only [bind_assoc]
  congr 1
  funext b
  cases b
  · simp only [bind_assoc, Bool.false_eq_true, if_false]
    congr 1
    funext b
    cases b
    · simp
    · simp
  · simp

theorem framed_content : Framed content := by
  refine (Decided.accept (by decide)).framed.bind fun twice => ?_
  split
  · exact framed_key.bind fun k => (Framed.exactly _).bind fun _ => .pure _
  · refine (Decided.accept (by decide)).framed.bind fun once => ?_
    split
    · exact framed_key.bind fun k => (Framed.exactly _).bind fun _ => .pure _
    · exact framed_key.bind fun k => (Framed.exactly _).bind fun _ =>
        decided_blanks.framed.bind fun _ => (framed_value maxDepth).bind fun v => .pure _

/-- A character that a key may begin with. -/
def startsKey (c : Char) : Bool := c == '"' || c == '\'' || isBare c

theorem keyPart_eq_none {cs : List Char} (h : ∀ c ∈ cs.head?, startsKey c = false) :
    keyPart cs = none := by
  have hbare : takeAll isBare cs = some ([], cs) := by
    cases cs with
    | nil => rfl
    | cons c cs =>
      have hc : isBare c = false := by
        have := h c rfl
        simp [startsKey] at this
        exact this.2
      simp [takeAll, hc]
  unfold keyPart
  rw [peek_bind_eq]
  generalize cs.head? = o at h
  split
  · exact absurd (h _ rfl) (by decide)
  · exact absurd (h _ rfl) (by decide)
  · rw [bind_eq, hbare]
    rfl

/-- A statement begins with a bracket or a key. -/
theorem content_eq_none {cs : List Char} (hbracket : cs.head? ≠ some '[')
    (hkey : ∀ c ∈ (cs.dropWhile isBlank).head?, startsKey c = false) : content cs = none := by
  have hmark (ms : List Char) : accept ('[' :: ms) cs = some (false, cs) := by
    cases cs with
    | nil => rfl
    | cons c cs =>
      have hc : '[' ≠ c := by
        rintro rfl
        exact hbracket rfl
      simp [accept, List.isPrefixOf, hc]
  have hnone : key cs = none := by
    show (keyParts (cs.length + 1) cs).bind _ = none
    rw [keyParts, bind_eq, blanks_eq, Option.bind_some, bind_eq, keyPart_eq_none hkey]
    rfl
  unfold content
  rw [bind_eq, hmark, Option.bind_some]
  simp only [Bool.false_eq_true, if_false]
  rw [bind_eq, hmark, Option.bind_some]
  simp only [Bool.false_eq_true, if_false]
  rw [bind_eq, hnone]
  rfl

/-- No statement begins with a stop. -/
theorem content_stops {t : List Char} (ht : Stops t) : content t = none := by
  have hdrop : t.dropWhile isBlank = t := by
    simpa using dropWhile_append_stops (passes_iff.mpr (by decide)) ht []
  refine content_eq_none (fun hhead => ?_) (hdrop.symm ▸ fun c hc => ?_)
  · exact absurd (ht '[' hhead) (by decide)
  · obtain rfl | rfl | rfl := isStop_iff.mp (ht c hc) <;> rfl

/-! ## Ends of line -/

/-- A comment, or nothing. -/
inductive Comment : List Char → Prop where
  | absent : Comment []
  | marked {text : List Char} : (∀ c ∈ text, isText c = true) → Comment ('#' :: text)

/-- A line break. -/
inductive LineBreak : List Char → Prop where
  | feed : LineBreak ['\n']
  | returnFeed : LineBreak ['\r', '\n']

/-- A text goes on behind the end of a line, which may be the end of the text. A comment may stand in
front of it. -/
inductive LineEnd : (text rest : List Char) → Prop where
  | last {c : List Char} : Comment c → LineEnd c []
  | broken {c e : List Char} (rest : List Char) : Comment c → LineBreak e →
    LineEnd (c ++ (e ++ rest)) rest

theorem LineEnd.stops {t rest : List Char} (h : LineEnd t rest) : Stops t := by
  obtain ⟨_ | _⟩ | ⟨_, _ | _, _ | _⟩ := h <;> simp [isStop]

theorem LineEnd.suffix {t rest : List Char} (ht : LineEnd t rest) : rest <:+ t := by
  obtain _ | ⟨_, _, _⟩ := ht
  · exact List.nil_suffix
  · exact (List.suffix_append _ _).trans (List.suffix_append _ _)

theorem newLine_eq_some_iff_lineBreak {t rest : List Char} {u : Unit} :
    newLine t = some (u, rest) ↔ ∃ e, LineBreak e ∧ t = e ++ rest := by
  rw [newLine_eq_some_iff]
  constructor
  · rintro (rfl | rfl)
    · exact ⟨_, .feed, rfl⟩
    · exact ⟨_, .returnFeed, rfl⟩
  · rintro ⟨e, ⟨⟩ | ⟨⟩, rfl⟩
    · exact .inl rfl
    · exact .inr rfl

theorem lineEnd_eq_some_iff {t rest : List Char} {u : Unit} :
    lineEnd t = some (u, rest) ↔ t = [] ∧ rest = [] ∨ ∃ e, LineBreak e ∧ t = e ++ rest := by
  cases t with
  | nil =>
    have heq : lineEnd [] = some ((), []) := rfl
    simp [heq, eq_comm]
  | cons c t =>
    rw [← newLine_eq_some_iff_lineBreak (u := u)]
    simp [lineEnd, peek_bind_eq]

/-- A comment is passed up to the end of its line. -/
theorem comment_append {c t : List Char} (hc : Comment c)
    (ht : t = [] ∨ ∃ e rest, LineBreak e ∧ t = e ++ rest) : comment (c ++ t) = some ((), t) := by
  cases hc with
  | absent =>
    obtain rfl | ⟨e, rest, ⟨⟩ | ⟨⟩, rfl⟩ := ht
    · rfl
    · exact comment_of_ne (by decide) _
    · exact comment_of_ne (by decide) _
  | marked htext =>
    rw [List.cons_append, comment_marked, List.dropWhile_append_of_pos htext]
    obtain rfl | ⟨e, rest, ⟨⟩ | ⟨⟩, rfl⟩ := ht <;> rfl

theorem exists_of_comment {cs t : List Char} {u : Unit} (h : comment cs = some (u, t)) :
    ∃ c, Comment c ∧ cs = c ++ t := by
  cases cs with
  | nil =>
    cases h
    exact ⟨[], .absent, rfl⟩
  | cons d cs =>
    by_cases hd : d = '#'
    · subst hd
      rw [comment_marked] at h
      cases h
      refine ⟨'#' :: cs.takeWhile isText, .marked fun c hc => List.mem_takeWhile_imp hc, ?_⟩
      rw [List.cons_append, List.takeWhile_append_dropWhile]
    · rw [comment_of_ne hd] at h
      cases h
      exact ⟨[], .absent, rfl⟩

theorem comment_lineEnd_iff {t rest : List Char} {u : Unit} :
    (comment >>= fun _ => lineEnd) t = some (u, rest) ↔ LineEnd t rest := by
  constructor
  · intro h
    obtain ⟨v, m, hcomment, hend⟩ := bind_eq_some_iff.mp h
    obtain ⟨c, hc, rfl⟩ := exists_of_comment hcomment
    obtain ⟨rfl, rfl⟩ | ⟨e, he, rfl⟩ := lineEnd_eq_some_iff.mp hend
    · rw [List.append_nil]
      exact .last hc
    · exact .broken rest hc he
  · rintro (hc | ⟨_, hc, he⟩)
    · rw [← List.append_nil t]
      exact bind_eq_some_iff.mpr ⟨(), [], comment_append hc (.inl rfl), rfl⟩
    · exact bind_eq_some_iff.mpr ⟨(), _, comment_append hc (.inr ⟨_, _, he, rfl⟩),
        lineEnd_eq_some_iff.mpr (.inr ⟨_, he, rfl⟩)⟩

/-- Blanks only. -/
def Blank (cs : List Char) : Prop := ∀ c ∈ cs, isBlank c = true

theorem endOfStatement_eq_some_iff {cs rest : List Char} {u : Unit} :
    endOfStatement cs = some (u, rest) ↔ ∃ back t, cs = back ++ t ∧ Blank back ∧ LineEnd t rest := by
  have heq : endOfStatement cs = (comment >>= fun _ => lineEnd) (cs.dropWhile isBlank) := rfl
  rw [heq, comment_lineEnd_iff]
  constructor
  · intro h
    exact ⟨cs.takeWhile isBlank, _, List.takeWhile_append_dropWhile.symm,
      fun c hc => List.mem_takeWhile_imp hc, h⟩
  · rintro ⟨back, t, rfl, hback, h⟩
    rwa [dropWhile_append_stops (passes_iff.mpr (by decide)) h.stops,
      List.dropWhile_eq_nil_iff.mpr hback]

/-! ## Layout -/

/-- A text without comment and end of line says one statement; blanks may stand around it. -/
def Says (line : List Char) (s : Statement) : Prop :=
  ∃ back, content (line.dropWhile isBlank) = some (s, back) ∧ Blank back

/-- A text is laid out in lines that say some statements one after the other. -/
inductive Layout : List Char → List Statement → Prop where
  | nil : Layout [] []
  /-- A line of blanks, with or without a comment, says nothing. -/
  | skip {front t rest : List Char} {ss : List Statement} :
    Blank front → LineEnd t rest → Layout rest ss → Layout (front ++ t) ss
  /-- Any other line says one statement, with or without a comment behind it. -/
  | line {line t rest : List Char} {s : Statement} {ss : List Statement} :
    Says line s → LineEnd t rest → Layout rest ss → Layout (line ++ t) (s :: ss)

/-- What a line says is said in front of every end of a line. -/
theorem Says.statement {line t rest : List Char} {s : Statement} (h : Says line s)
    (ht : LineEnd t rest) : statement (line.dropWhile isBlank ++ t) = some (s, rest) := by
  obtain ⟨back, hcontent, hback⟩ := h
  have hframe : content (line.dropWhile isBlank ++ t) = some (s, back ++ t) :=
    (framed_content _).frame (Nat.lt_succ_self _) (Nat.zero_le _) stops_nil ht.stops
      (by simpa using hcontent)
  rw [statement_eq]
  exact bind_eq_some_iff.mpr ⟨s, _, hframe, bind_eq_some_iff.mpr
    ⟨(), rest, endOfStatement_eq_some_iff.mpr ⟨back, t, rfl, hback, ht⟩, rfl⟩⟩

/-- What is read as a statement is a line and its end. -/
theorem exists_of_statement {cs rest : List Char} {s : Statement} (h : statement cs = some (s, rest))
    (hcs : ∀ c ∈ cs.head?, isBlank c = false) :
    ∃ line t, cs = line ++ t ∧ Says line s ∧ LineEnd t rest := by
  rw [statement_eq] at h
  obtain ⟨s', v, hcontent, h⟩ := bind_eq_some_iff.mp h
  obtain ⟨u, m, hend, h⟩ := bind_eq_some_iff.mp h
  cases h
  obtain ⟨back, t, rfl, hback, ht⟩ := endOfStatement_eq_some_iff.mp hend
  obtain ⟨body, rfl⟩ := (framed_content 0).shrinks hcontent
  have hline : content (body ++ back) = some (s, back) := by
    have hframe : content ((body ++ back) ++ []) = some (s, back ++ []) :=
      (framed_content _).frame (Nat.lt_succ_self _) (Nat.zero_le _) ht.stops stops_nil
        (by simpa using hcontent)
    simpa using hframe
  refine ⟨body ++ back, t, (List.append_assoc _ _ _).symm, ⟨back, ?_, hback⟩, ht⟩
  have hfirst : (body ++ back).dropWhile isBlank = body ++ back := by
    rw [← List.append_assoc] at hcs
    cases hline : body ++ back with
    | nil => rfl
    | cons c line => exact List.dropWhile_cons_of_neg (by simpa [hline] using hcs)
  rwa [hfirst]

/-! ## Documents -/

/-- Blanks in front of a line have no part in it. -/
theorem statements_append {front : List Char} (hfront : Blank front) (fuel : Nat) (cs : List Char) :
    statements fuel (front ++ cs) = statements fuel cs := by
  cases fuel with
  | zero => rfl
  | succ fuel =>
    unfold statements
    rw [bind_eq, bind_eq, blanks_eq, blanks_eq, List.dropWhile_append_of_pos hfront]

theorem LineEnd.length_lt {t rest : List Char} (ht : LineEnd t rest) (hne : t ≠ []) :
    rest.length < t.length := by
  obtain hc | ⟨_, hc, he⟩ := ht
  · exact List.length_pos_iff.mpr hne
  · cases he <;> simp <;> omega

/-- The end of a line leads to the next one. -/
theorem statements_lineEnd {t rest : List Char} (ht : LineEnd t rest) (hne : t ≠ []) (fuel : Nat) :
    statements (fuel + 1) t = statements fuel rest := by
  have hblanks : blanks t = some ((), t) := by simpa using decided_blanks.append [] t ht.stops
  have hmarked (h : t.head? = some '#') : statements (fuel + 1) t = statements fuel rest := by
    rw [statements, bind_eq, hblanks, Option.bind_some, peek_bind_eq, h]
    show (comment >>= fun _ => lineEnd >>= fun _ => statements fuel) t = _
    rw [← bind_assoc, bind_eq, comment_lineEnd_iff (u := ()).mpr ht]
    rfl
  have hbroken {e : List Char} (he : LineBreak e) (h : t = e ++ rest) :
      statements (fuel + 1) t = statements fuel rest := by
    have hline : newLine t = some ((), rest) := newLine_eq_some_iff_lineBreak.mpr ⟨e, he, h⟩
    rw [statements, bind_eq, hblanks, Option.bind_some, peek_bind_eq]
    have hgo : (newLine >>= fun _ => statements fuel) t = statements fuel rest := by
      rw [bind_eq, hline]
      rfl
    subst h
    cases he
    · exact hgo
    · exact hgo
  obtain ⟨_ | _⟩ | ⟨_, _ | _, he⟩ := ht
  · exact absurd rfl hne
  · exact hmarked rfl
  · exact hbroken he rfl
  · exact hmarked rfl

theorem Says.not_stops {line : List Char} {s : Statement} (h : Says line s) :
    ¬Stops (line.dropWhile isBlank) := by
  intro hstops
  obtain ⟨back, hcontent, -⟩ := h
  rw [content_stops hstops] at hcontent
  cases hcontent

theorem Says.length_pos {line : List Char} {s : Statement} (h : Says line s) : 0 < line.length := by
  cases line with
  | nil => exact absurd stops_nil h.not_stops
  | cons c line => exact Nat.succ_pos _

/-- A statement leads to the next line. -/
theorem statements_line {line t rest : List Char} {s : Statement} (h : Says line s)
    (ht : LineEnd t rest) (fuel : Nat) : statements (fuel + 1) (line ++ t) =
      (statements fuel rest).map fun x => (s :: x.1, x.2) := by
  have hstatement := h.statement ht
  have hfirst := h.not_stops
  rw [statements, bind_eq, blanks_eq, Option.bind_some, peek_bind_eq,
    dropWhile_append_stops (passes_iff.mpr (by decide)) ht.stops]
  cases hline : line.dropWhile isBlank with
  | nil => simp [hline] at hfirst
  | cons c line' =>
    rw [hline] at hfirst hstatement
    rw [stops_cons, isStop_iff, not_or, not_or] at hfirst
    obtain ⟨hcomment, hfeed, hreturn⟩ := hfirst
    have hgo : (do return (← statement) :: (← statements fuel)) (c :: line' ++ t) =
        (statements fuel rest).map fun x => (s :: x.1, x.2) := by
      rw [bind_eq, hstatement, Option.bind_some, bind_eq]
      cases statements fuel rest <;> rfl
    rw [List.cons_append, List.head?_cons]
    generalize ho : some c = o
    split
    · cases ho
    · exact absurd (Option.some.inj ho) hcomment
    · exact absurd (Option.some.inj ho) hfeed
    · exact absurd (Option.some.inj ho) hreturn
    · exact hgo

/-- The lines of a text say what is read. -/
theorem Layout.statements_eq {cs : List Char} {ss : List Statement} (h : Layout cs ss) {fuel : Nat}
    (hfuel : cs.length < fuel) : statements fuel cs = some (ss, []) := by
  induction h generalizing fuel with
  | nil =>
    obtain ⟨fuel, rfl⟩ := Nat.exists_eq_add_of_lt hfuel
    rfl
  | @skip front t rest ss hfront ht _ ih =>
    rw [List.length_append] at hfuel
    rw [statements_append hfront]
    by_cases hne : t = []
    · subst hne
      obtain rfl := List.suffix_nil.mp ht.suffix
      exact ih (by simp; omega)
    · obtain ⟨fuel, rfl⟩ := Nat.exists_eq_add_of_lt hfuel
      have hlen := ht.length_lt hne
      rw [statements_lineEnd ht hne]
      exact ih (by omega)
  | @line line t rest s ss hline ht _ ih =>
    rw [List.length_append] at hfuel
    obtain ⟨fuel, rfl⟩ := Nat.exists_eq_add_of_lt hfuel
    have hlen := ht.suffix.length_le
    have hpos := hline.length_pos
    rw [statements_line hline ht, ih (by omega)]
    rfl

/-- What is read of a text is said by its lines. -/
theorem layout_of_statements {fuel : Nat} {cs rest : List Char} {ss : List Statement}
    (h : statements fuel cs = some (ss, rest)) : Layout cs ss := by
  induction fuel generalizing cs ss with
  | zero => cases h
  | succ fuel ih =>
    unfold statements at h
    rw [bind_eq, blanks_eq, Option.bind_some, peek_bind_eq] at h
    have hfront : Blank (cs.takeWhile isBlank) := fun c hc => List.mem_takeWhile_imp hc
    have hfirst := List.head?_dropWhile_not isBlank cs
    rw [← List.takeWhile_append_dropWhile (p := isBlank) (l := cs)]
    generalize cs.dropWhile isBlank = line at h hfirst
    generalize ho : line.head? = o at h hfirst
    split at h
    · obtain rfl := List.head?_eq_none_iff.mp ho
      cases h
      exact .skip hfront (.last .absent) .nil
    · obtain ⟨u, m, hcomment, h⟩ := bind_eq_some_iff.mp h
      obtain ⟨v, m', hend, h⟩ := bind_eq_some_iff.mp h
      have ht : LineEnd line m' :=
        comment_lineEnd_iff.mp (bind_eq_some_iff.mpr ⟨u, m, hcomment, hend⟩)
      exact .skip hfront ht (ih h)
    · obtain ⟨u, m, hline, hrest⟩ := bind_eq_some_iff.mp h
      obtain ⟨e, he, rfl⟩ := newLine_eq_some_iff_lineBreak.mp hline
      exact .skip hfront (.broken m .absent he) (ih hrest)
    · obtain ⟨u, m, hline, hrest⟩ := bind_eq_some_iff.mp h
      obtain ⟨e, he, rfl⟩ := newLine_eq_some_iff_lineBreak.mp hline
      exact .skip hfront (.broken m .absent he) (ih hrest)
    · obtain ⟨s, m, hline, h⟩ := bind_eq_some_iff.mp h
      obtain ⟨ss', m', hrest, h⟩ := bind_eq_some_iff.mp h
      cases h
      have hhead : ∀ c ∈ line.head?, isBlank c = false := by
        intro c hc
        rw [ho] at hc
        obtain rfl := Option.mem_def.mp hc
        exact hfirst
      obtain ⟨line, t, rfl, ⟨back, hcontent, hback⟩, ht⟩ := exists_of_statement hline hhead
      rw [← List.append_assoc]
      refine .line ⟨back, ?_, hback⟩ ht (ih hrest)
      rwa [List.dropWhile_append_of_pos hfront]

/-- What the lines of a text say is determined. -/
theorem Layout.unique {cs : List Char} {ss ss' : List Statement} (h : Layout cs ss)
    (h' : Layout cs ss') : ss = ss' := by
  have hread := h.statements_eq (Nat.lt_succ_self _)
  rw [h'.statements_eq (Nat.lt_succ_self _)] at hread
  cases hread
  rfl

/-- A line that says nothing can be taken away. -/
theorem layout_skip_iff {front t rest : List Char} {ss : List Statement} (hfront : Blank front)
    (ht : LineEnd t rest) (hne : t ≠ []) : Layout (front ++ t) ss ↔ Layout rest ss := by
  constructor
  · intro h
    have hread := h.statements_eq (Nat.lt_succ_self _)
    rw [statements_append hfront, statements_lineEnd ht hne] at hread
    exact layout_of_statements hread
  · intro h
    exact .skip hfront ht h

/-- Any other line gives the first statement. -/
theorem layout_line_iff {line t rest : List Char} {s : Statement} {ss : List Statement}
    (hline : Says line s) (ht : LineEnd t rest) :
    Layout (line ++ t) ss ↔ ∃ ss', Layout rest ss' ∧ ss = s :: ss' := by
  constructor
  · intro h
    have hread := h.statements_eq (Nat.lt_succ_self _)
    rw [statements_line hline ht] at hread
    obtain ⟨⟨ss', rest'⟩, hrest, hss⟩ := Option.map_eq_some_iff.mp hread
    cases hss
    exact ⟨ss', layout_of_statements hrest, rfl⟩
  · rintro ⟨ss', h, rfl⟩
    exact .line hline ht h

/-- Whole lines that say some statements. -/
inductive Lines : List Char → List Statement → Prop where
  | nil : Lines [] []
  | skip {front c e cs : List Char} {ss : List Statement} : Blank front → Comment c → LineBreak e →
    Lines cs ss → Lines (front ++ (c ++ (e ++ cs))) ss
  | line {line c e cs : List Char} {s : Statement} {ss : List Statement} : Says line s → Comment c →
    LineBreak e → Lines cs ss → Lines (line ++ (c ++ (e ++ cs))) (s :: ss)

/-- Behind whole lines a text goes on by itself. -/
theorem Lines.layout_append_iff {pre post : List Char} {ss ss' : List Statement} (h : Lines pre ss) :
    Layout (pre ++ post) ss' ↔ ∃ ss₂, Layout post ss₂ ∧ ss' = ss ++ ss₂ := by
  induction h generalizing ss' with
  | nil => simp
  | @skip front c e cs ss hfront hc he _ ih =>
    have ht : LineEnd (c ++ (e ++ (cs ++ post))) (cs ++ post) := .broken _ hc he
    have hne : c ++ (e ++ (cs ++ post)) ≠ [] := by cases he <;> simp
    simp only [List.append_assoc]
    rw [layout_skip_iff hfront ht hne, ih]
  | @line line c e cs s ss hline hc he _ ih =>
    have ht : LineEnd (c ++ (e ++ (cs ++ post))) (cs ++ post) := .broken _ hc he
    simp only [List.append_assoc]
    rw [layout_line_iff hline ht]
    constructor
    · rintro ⟨ss₁, h₁, rfl⟩
      obtain ⟨ss₂, h₂, rfl⟩ := ih.mp h₁
      exact ⟨ss₂, h₂, rfl⟩
    · rintro ⟨ss₂, h₂, rfl⟩
      exact ⟨ss ++ ss₂, ih.mpr ⟨ss₂, h₂, rfl⟩, rfl⟩

/-- Lines that say nothing may stand between any two lines. -/
theorem Lines.layout_insert_iff {pre gap post : List Char} {ss ss' : List Statement} (h : Lines pre ss)
    (hgap : Lines gap []) : Layout (pre ++ (gap ++ post)) ss' ↔ Layout (pre ++ post) ss' := by
  simp [h.layout_append_iff, hgap.layout_append_iff]

/-- The text behind a byte order mark. -/
def body (text : String) : List Char :=
  match text.toList with
  | '\ufeff' :: rest => rest
  | cs => cs

theorem body_suffix (text : String) : body text <:+ text.toList := by
  unfold body
  split
  · next h => exact h ▸ List.suffix_cons _ _
  · exact List.suffix_rfl

/-- A text is a document if and only if it is laid out in lines that are consistent. -/
theorem Entries.ofText?_eq_some_iff {text : String} {es : Entries} :
    ofText? text = some es ↔ ∃ ss, Layout (body text) ss ∧ ofStatements? ss = some es := by
  have heq : ofText? text =
      ((statements ((body text).length + 1)).run' (body text)).bind ofStatements? := rfl
  rw [heq, Option.bind_eq_some_iff]
  constructor
  · rintro ⟨ss, hrun, hes⟩
    obtain ⟨⟨ss', rest⟩, hread, hss⟩ := Option.map_eq_some_iff.mp hrun
    obtain rfl : ss' = ss := hss
    exact ⟨ss', layout_of_statements hread, hes⟩
  · rintro ⟨ss, hlayout, hes⟩
    refine ⟨ss, ?_, hes⟩
    show (statements _ _).map _ = _
    rw [hlayout.statements_eq (Nat.lt_succ_self _)]
    rfl

/-! ## Blank texts -/

/-- No statement begins with white space. -/
theorem startsKey_of_isBlank {c : Char} (h : Text.isBlank c = true) :
    c ≠ '[' ∧ startsKey c = false := by
  have hne {d : Char} (hd : Text.isBlank d = false) : c ≠ d := by
    rintro rfl
    exact absurd (h.symm.trans hd) nofun
  refine ⟨hne rfl, ?_⟩
  have hbare : isBare c = false := by
    have hminus : c ≠ '-' := hne rfl
    have hlow : c ≠ '_' := hne rfl
    simp only [Text.isBlank, Bool.or_eq_true, Bool.and_eq_true, decide_eq_true_eq, beq_iff_eq] at h
    unfold isBare Char.isAlphanum Char.isAlpha Char.isUpper Char.isLower Char.isDigit
    simp [hminus, hlow, UInt32.le_iff_toNat_le]
    omega
  simp [startsKey, hne (d := '"') rfl, hne (d := '\'') rfl, hbare]

/-- Where nothing but white space is, nothing is said. -/
theorem Layout.eq_nil_of_blank {cs : List Char} {ss : List Statement} (h : Layout cs ss)
    (hblank : ∀ c ∈ cs, Text.isBlank c = true) : ss = [] := by
  induction h with
  | nil => rfl
  | skip _ ht _ ih =>
    exact ih fun c hc => hblank c (List.mem_append_right _ (ht.suffix.mem hc))
  | @line line t _ s _ hline _ _ _ =>
    obtain ⟨back, hcontent, -⟩ := hline
    have hmem : ∀ c ∈ line.dropWhile isBlank, Text.isBlank c = true := fun c hc =>
      hblank c (List.mem_append_left t ((List.dropWhile_suffix isBlank).mem hc))
    rw [content_eq_none] at hcontent
    · cases hcontent
    · intro hhead
      exact (startsKey_of_isBlank (hmem '[' (List.mem_of_mem_head? hhead))).1 rfl
    · intro c hc
      exact (startsKey_of_isBlank (hmem c
        ((List.dropWhile_suffix isBlank).mem (List.mem_of_mem_head? hc)))).2

theorem Layout.eq_nil_of_isAllBlank {text : String} {ss : List Statement} (h : Layout (body text) ss)
    (hblank : Text.isAllBlank text = true) : ss = [] :=
  h.eq_nil_of_blank fun c hc => List.all_eq_true.mp hblank c ((body_suffix text).mem hc)

end StarSurvey.Toml
