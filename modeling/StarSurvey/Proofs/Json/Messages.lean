import StarSurvey.Json.Shape
import StarSurvey.Proofs.Json.Passing
import StarSurvey.Proofs.Lines

/-!
# What is said of a text that is not decoded

A message quotes what was found, so it is a line if what was expected is called by names that are
lines, whatever stands in the text.

- **Messages** (`isLine_message`): all but those about misfits are fixed.
- **Readers** (`FailsOnly`): one lemma for each.
- **Shapes** (`Shape.failsOnly_read`): what the reader of a shape says is a line if the names of the
  shape and of its fields are, and what the fields say is.
- **Documents** (`isLine_message_of_decode`).
-/

namespace StarSurvey

open Text

/-! ## Messages -/

/-- What a misfit names: what was expected, or a field. -/
def Misfit.name : Misfit → String
  | .wrongType _ expected | .wrongValue _ expected | .wrongLength _ expected => expected
  | .missing field | .duplicate field => field

namespace Json

variable {α β σ : Type} {c : Cause}

theorem isLine_describe (found : Found) : IsLine (found.describe wording) := by
  cases found with
  | nothing | sequence | map => decide
  | boolean b => cases b <;> decide
  | integer n =>
    have hwidth : IsLine (if 0x10000000000000000 ≤ n then " as u128"
        else if n < -0x8000000000000000 then " as i128" else "") := by
      split_ifs <;> decide
    show IsLine ("integer `" ++ toString n ++ "`" ++ _)
    simp only [isLine_append]
    exact ⟨⟨⟨by decide, isLine_int n⟩, by decide⟩, hwidth⟩
  | float x =>
    show IsLine ("floating point `" ++ wording.numbers.text x ++ "`")
    simp only [isLine_append]
    exact ⟨⟨by decide, isLine_layout _ x⟩, by decide⟩
  | text s =>
    show IsLine ("string " ++ Text.quoted s)
    rw [isLine_append]
    exact ⟨by decide, isLine_quoted s⟩

theorem isLine_misfit {m : Misfit} (h : IsLine m.name) : IsLine (m.message wording) := by
  cases m with
  | wrongType found expected =>
    show IsLine ("invalid type: " ++ found.describe wording ++ ", expected " ++ expected)
    simp only [isLine_append]
    exact ⟨⟨⟨by decide, isLine_describe found⟩, by decide⟩, h⟩
  | wrongValue found expected =>
    show IsLine ("invalid value: " ++ found.describe wording ++ ", expected " ++ expected)
    simp only [isLine_append]
    exact ⟨⟨⟨by decide, isLine_describe found⟩, by decide⟩, h⟩
  | wrongLength n expected =>
    show IsLine ("invalid length " ++ toString n ++ ", expected " ++ expected)
    simp only [isLine_append]
    exact ⟨⟨⟨by decide, isLine_nat n⟩, by decide⟩, h⟩
  | missing field =>
    show IsLine ("missing field `" ++ field ++ "`")
    simp only [isLine_append]
    exact ⟨⟨by decide, h⟩, by decide⟩
  | duplicate field =>
    show IsLine ("duplicate field `" ++ field ++ "`")
    simp only [isLine_append]
    exact ⟨⟨by decide, h⟩, by decide⟩

/-- A cause that names something. -/
def Cause.isMisfit : Cause → Bool
  | .misfit _ => true
  | _ => false

/-- All other causes have fixed messages. -/
theorem isLine_message (h : c.isMisfit = false) : IsLine c.message := by
  cases c with
  | misfit m => cases h
  | timestamp f => cases f <;> decide
  | _ => decide

/-- What is said of a fault is a line. -/
def Fault.InLine (f : Fault) : Prop := IsLine f.cause.message

/-! ## Steps -/

theorem failsOnly_fail (h : c.isMisfit = false) : FailsOnly (fail c : Reader α) Fault.InLine := by
  intro bs f hf
  cases hf
  exact isLine_message h

theorem failsOnly_failPast (h : c.isMisfit = false) :
    FailsOnly (failPast c : Reader α) Fault.InLine := by
  intro bs f hf
  cases hf
  exact isLine_message h

theorem failsOnly_fail_misfit {m : Misfit} (h : IsLine m.name) :
    FailsOnly (fail (.misfit m) : Reader α) Fault.InLine := by
  intro bs f hf
  cases hf
  exact isLine_misfit h

theorem failsOnly_get : FailsOnly (get : Reader (List UInt8)) Fault.InLine := .of_ok

theorem failsOnly_peek : FailsOnly peek Fault.InLine := .of_ok

theorem failsOnly_next : FailsOnly next Fault.InLine := .of_ok

theorem failsOnly_pass : FailsOnly pass Fault.InLine := .of_ok

theorem failsOnly_blanks : FailsOnly blanks Fault.InLine := .of_ok

theorem failsOnly_word (ws : List UInt8) : FailsOnly (word ws) Fault.InLine := by
  induction ws with
  | nil => exact .pure ()
  | cons w ws ih =>
    refine .bind failsOnly_next fun b => ?_
    split
    · exact failsOnly_fail rfl
    · split
      · exact ih
      · exact failsOnly_fail rfl

theorem failsOnly_firstByte : FailsOnly firstByte Fault.InLine := by
  refine .bind failsOnly_blanks fun _ => .bind failsOnly_peek fun b => ?_
  split
  · exact failsOnly_failPast rfl
  · exact .pure _

/-! ## Numbers -/

theorem failsOnly_readWhole (h : c.isMisfit = false) : FailsOnly (readWhole c) Fault.InLine := by
  refine .bind failsOnly_next fun d => ?_
  split
  · exact failsOnly_fail h
  · split_ifs
    · refine .bind failsOnly_peek fun _ => ?_
      split
      · exact failsOnly_failPast rfl
      · exact .pure _
    · exact .of_ok
    · exact failsOnly_fail rfl

theorem failsOnly_readFractionPart (h : c.isMisfit = false) :
    FailsOnly (readFractionPart c) Fault.InLine := by
  refine .bind failsOnly_peek fun _ => ?_
  split
  · refine .bind failsOnly_pass fun _ => .bind failsOnly_peek fun d => ?_
    split
    · exact failsOnly_failPast h
    · split
      · exact .of_ok
      · exact failsOnly_failPast rfl
  · exact .pure _

theorem failsOnly_readExponent (h : c.isMisfit = false) :
    FailsOnly (readExponent c) Fault.InLine := by
  refine .bind failsOnly_peek fun sign => ?_
  split
  on_goal 1 => refine .bind failsOnly_pass fun _ => ?_
  -- with a sign in front or without one, the digits are the same
  all_goals
    refine .bind failsOnly_next fun d => ?_
    split
    · exact failsOnly_fail h
    · split
      · exact .of_ok
      · exact failsOnly_fail rfl

theorem failsOnly_readExponentPart (h : c.isMisfit = false) :
    FailsOnly (readExponentPart c) Fault.InLine := by
  refine .bind failsOnly_peek fun _ => ?_
  split
  · exact .bind failsOnly_pass fun _ => .map some (failsOnly_readExponent h)
  · exact .pure none

theorem failsOnly_readNumeral (h : c.isMisfit = false) :
    FailsOnly (readNumeral c) Fault.InLine := by
  have hsign : FailsOnly readSign Fault.InLine := by
    refine .bind failsOnly_peek fun _ => ?_
    split
    · exact .bind failsOnly_pass fun _ => .pure true
    · exact .pure false
  exact .bind hsign fun _ => .bind (failsOnly_readWhole h) fun _ =>
    .bind (failsOnly_readFractionPart h) fun _ => .bind (failsOnly_readExponentPart h) fun _ =>
      .pure _

theorem failsOnly_readNumber : FailsOnly readNumber Fault.InLine := by
  refine .bind (failsOnly_readNumeral rfl) fun n => ?_
  split
  · exact .pure _
  · intro bs f hf
    cases hf
    exact isLine_message rfl

/-! ## Strings -/

theorem failsOnly_readHex : FailsOnly readHex Fault.InLine := by
  intro bs f hf
  unfold readHex at hf
  split at hf
  · split at hf
    · cases hf
    · cases hf
      exact isLine_message rfl
  · cases hf
    exact isLine_message rfl

theorem failsOnly_pairMark (mark : UInt8) : FailsOnly (pairMark mark) Fault.InLine := by
  refine .bind failsOnly_next fun b => ?_
  split
  · exact failsOnly_fail rfl
  · split
    · exact .pure _
    · exact failsOnly_fail rfl

theorem failsOnly_readUnicode : FailsOnly readUnicode Fault.InLine := by
  refine .bind failsOnly_readHex fun n => ?_
  split_ifs
  · exact failsOnly_fail rfl
  · refine .bind (failsOnly_pairMark _) fun _ => .bind (failsOnly_pairMark _) fun _ => ?_
    refine .bind failsOnly_readHex fun m => ?_
    split
    · exact .pure _
    · exact failsOnly_fail rfl
  · exact .pure _

theorem failsOnly_readEscape : FailsOnly readEscape Fault.InLine := by
  refine .bind failsOnly_next fun b => ?_
  split
  · exact failsOnly_fail rfl
  · split
    · exact failsOnly_readUnicode
    · split
      · exact .pure _
      · exact failsOnly_fail rfl

theorem failsOnly_readContents (fuel : ℕ) : FailsOnly (readContents fuel) Fault.InLine := by
  induction fuel with
  | zero => exact failsOnly_fail rfl
  | succ fuel ih =>
    refine .bind failsOnly_next fun b => ?_
    split
    · exact failsOnly_fail rfl
    · split_ifs
      · exact .pure _
      · exact .bind failsOnly_readEscape fun _ => .bind ih fun _ => .pure _
      · exact failsOnly_fail rfl
      · exact .bind ih fun _ => .pure _

theorem failsOnly_readString : FailsOnly readString Fault.InLine := by
  refine .bind failsOnly_get fun bs => .bind (failsOnly_readContents _) fun cs => ?_
  split
  · exact .pure _
  · intro rest f hf
    cases hf
    exact isLine_message rfl

/-! ## Values that nobody asked for -/

theorem failsOnly_skipContents (fuel : ℕ) : FailsOnly (skipContents fuel) Fault.InLine := by
  have hescape : FailsOnly skipEscape Fault.InLine := by
    refine .bind failsOnly_next fun b => ?_
    split
    · exact failsOnly_fail rfl
    · split_ifs
      · exact .map _ failsOnly_readHex
      · exact .pure _
      · exact failsOnly_fail rfl
  induction fuel with
  | zero => exact failsOnly_fail rfl
  | succ fuel ih =>
    refine .bind failsOnly_peek fun b => ?_
    split
    · exact failsOnly_fail rfl
    · split_ifs
      · exact failsOnly_pass
      · exact .bind failsOnly_pass fun _ => .bind hescape fun _ => ih
      · exact failsOnly_fail rfl
      · exact .bind failsOnly_pass fun _ => ih

/-- What follows the blanks is looked at. -/
theorem failsOnly_blanks_peek {k : Option UInt8 → Reader α}
    (h : ∀ b, FailsOnly (k b) Fault.InLine) :
    FailsOnly (do blanks; k (← peek)) Fault.InLine :=
  .bind failsOnly_blanks fun _ => .bind failsOnly_peek h

theorem failsOnly_skip (fuel : ℕ) : FailsOnly (skipValueWith fuel) Fault.InLine ∧
    FailsOnly (skipElements fuel) Fault.InLine ∧ FailsOnly (skipMembers fuel) Fault.InLine := by
  induction fuel with
  | zero => exact ⟨failsOnly_failPast rfl, failsOnly_failPast rfl, failsOnly_failPast rfl⟩
  | succ fuel ih =>
    obtain ⟨hvalue, helements, hmembers⟩ := ih
    refine ⟨?_, ?_, ?_⟩
    · rw [skipValueWith]
      refine failsOnly_blanks_peek fun b => ?_
      split
      · exact failsOnly_failPast rfl
      · split_ifs
        · exact .bind failsOnly_pass fun _ => failsOnly_word _
        · exact .bind failsOnly_pass fun _ => failsOnly_word _
        · exact .bind failsOnly_pass fun _ => failsOnly_word _
        · exact .map _ (failsOnly_readNumeral rfl)
        · exact .bind failsOnly_pass fun _ => failsOnly_skipContents fuel
        · refine .bind failsOnly_pass fun _ => failsOnly_blanks_peek fun c => ?_
          split
          · exact failsOnly_failPast rfl
          · split
            · exact failsOnly_pass
            · exact helements
        · refine .bind failsOnly_pass fun _ => failsOnly_blanks_peek fun c => ?_
          split
          · exact failsOnly_failPast rfl
          · split
            · exact failsOnly_pass
            · exact hmembers
        · exact failsOnly_failPast rfl
    · rw [skipElements]
      refine .bind hvalue fun _ => failsOnly_blanks_peek fun b => ?_
      split
      · exact failsOnly_failPast rfl
      · split_ifs
        · exact .bind failsOnly_pass fun _ => helements
        · exact failsOnly_pass
        · exact failsOnly_failPast rfl
    · have hmore : FailsOnly (skipMoreMembers fuel) Fault.InLine := by
        refine failsOnly_blanks_peek fun b => ?_
        split
        · exact failsOnly_failPast rfl
        · split_ifs
          · exact .bind failsOnly_pass fun _ => hmembers
          · exact failsOnly_pass
          · exact failsOnly_failPast rfl
      rw [skipMembers]
      refine failsOnly_blanks_peek fun q => ?_
      split
      on_goal 2 => split
      on_goal 1 => refine .bind (failsOnly_failPast rfl) fun _ => ?_
      on_goal 2 => refine .bind failsOnly_pass fun _ => ?_
      on_goal 3 => refine .bind (failsOnly_failPast rfl) fun _ => ?_
      -- behind the quote, or behind the failure, the key goes on
      all_goals
        refine .bind (failsOnly_skipContents fuel) fun _ => failsOnly_blanks_peek fun c => ?_
        split
        · exact .bind (failsOnly_failPast rfl) fun _ => .bind hvalue fun _ => hmore
        · split
          · exact .bind failsOnly_pass fun _ => .bind hvalue fun _ => hmore
          · exact .bind (failsOnly_failPast rfl) fun _ => .bind hvalue fun _ => hmore

theorem failsOnly_skipValue : FailsOnly skipValue Fault.InLine :=
  .bind failsOnly_get fun _ => (failsOnly_skip _).1

/-! ## Shapes -/

theorem failsOnly_misfit {expected : String} (h : IsLine expected) :
    FailsOnly (misfit expected : Reader α) Fault.InLine := by
  have hfound : ∀ f, FailsOnly (fail (.misfit (.wrongType f expected)) : Reader α) Fault.InLine :=
    fun _ => failsOnly_fail_misfit h
  refine .bind failsOnly_peek fun b => ?_
  cases b with
  | none => exact failsOnly_failPast rfl
  | some b =>
    dsimp only
    split_ifs
    · exact .bind failsOnly_pass fun _ => .bind (failsOnly_word _) fun _ => hfound _
    · exact .bind failsOnly_pass fun _ => .bind (failsOnly_word _) fun _ => hfound _
    · exact .bind failsOnly_pass fun _ => .bind (failsOnly_word _) fun _ => hfound _
    · exact .bind failsOnly_readNumber fun _ => hfound _
    · exact .bind failsOnly_pass fun _ => .bind failsOnly_readString fun _ => hfound _
    · exact hfound _
    · exact hfound _
    · exact failsOnly_failPast rfl

theorem failsOnly_readStringAs {expected : String} (h : IsLine expected) :
    FailsOnly (readStringAs expected) Fault.InLine := by
  refine .bind failsOnly_firstByte fun b => ?_
  split
  · exact .bind failsOnly_pass fun _ => failsOnly_readString
  · exact failsOnly_misfit h

theorem failsOnly_readText : FailsOnly readText Fault.InLine := failsOnly_readStringAs (by decide)

theorem failsOnly_readInstant : FailsOnly readInstant Fault.InLine := by
  refine .bind (failsOnly_readStringAs (by decide)) fun s => ?_
  split
  · exact .pure _
  · exact failsOnly_fail rfl

theorem failsOnly_readFloat : FailsOnly readFloat Fault.InLine := by
  refine .map _ (.bind failsOnly_firstByte fun b => ?_)
  split
  · exact failsOnly_readNumber
  · exact failsOnly_misfit (by decide)

theorem failsOnly_nextElement (first : Bool) : FailsOnly (nextElement first) Fault.InLine := by
  refine failsOnly_blanks_peek fun b => ?_
  split
  · exact failsOnly_failPast rfl
  · split_ifs
    · exact .pure _
    · exact .pure _
    · refine .bind failsOnly_pass fun _ => failsOnly_blanks_peek fun c => ?_
      split
      · exact failsOnly_failPast rfl
      · split
        · exact failsOnly_failPast rfl
        · exact .pure _
    · exact failsOnly_failPast rfl

theorem failsOnly_endList : FailsOnly endList Fault.InLine := by
  refine failsOnly_blanks_peek fun b => ?_
  split
  · exact failsOnly_failPast rfl
  · split_ifs
    · exact failsOnly_pass
    · refine .bind failsOnly_pass fun _ => failsOnly_blanks_peek fun c => ?_
      split <;> exact failsOnly_failPast rfl
    · exact failsOnly_failPast rfl

/-- The name of a field is a line, and the field says lines only. -/
structure Field.InLine (f : Field σ) : Prop where
  name : IsLine f.name
  read : ∀ p, FailsOnly (f.read p) Fault.InLine

theorem Field.InLine.of {name : String} {get : σ → Option α} {put : σ → α → σ} {r : Reader α}
    (hname : IsLine name) (hr : FailsOnly r Fault.InLine) : InLine (.of name get put r) :=
  ⟨hname, fun _ => .map _ hr⟩

namespace Shape

theorem failsOnly_nextKey (first : Bool) : FailsOnly (nextKey first) Fault.InLine := by
  refine failsOnly_blanks_peek fun b => ?_
  split
  · exact failsOnly_failPast rfl
  · split_ifs
    · exact .pure _
    · exact .bind failsOnly_pass fun _ => .pure _
    · exact failsOnly_failPast rfl
    · refine .bind failsOnly_pass fun _ => failsOnly_blanks_peek fun c => ?_
      split
      · exact failsOnly_failPast rfl
      · split_ifs
        · exact .bind failsOnly_pass fun _ => .pure _
        · exact failsOnly_failPast rfl
        · exact failsOnly_failPast rfl
    · exact failsOnly_failPast rfl

theorem failsOnly_colon : FailsOnly colon Fault.InLine := by
  refine failsOnly_blanks_peek fun b => ?_
  split
  · exact failsOnly_failPast rfl
  · split
    · exact failsOnly_pass
    · exact failsOnly_failPast rfl

theorem failsOnly_repeated {name : String} (h : IsLine name) :
    FailsOnly (repeated name : Reader σ) Fault.InLine := by
  refine failsOnly_blanks_peek fun b => ?_
  split
  · exact .bind failsOnly_pass fun _ => failsOnly_fail_misfit h
  · exact failsOnly_fail_misfit h

variable {fields : List (Field σ)}

theorem failsOnly_readMembers (h : ∀ f ∈ fields, f.InLine) (fuel : ℕ) (first : Bool) (p : σ) :
    FailsOnly (readMembers fields fuel first p) Fault.InLine := by
  induction fuel generalizing first p with
  | zero => exact failsOnly_failPast rfl
  | succ fuel ih =>
    refine .bind (failsOnly_nextKey first) fun more => ?_
    split
    · refine .bind failsOnly_readString fun key => ?_
      split
      · rename_i f hf
        have hfield := h f (List.mem_of_find?_eq_some hf)
        split
        · exact failsOnly_repeated hfield.name
        · exact .bind failsOnly_colon fun _ => .bind (hfield.read p) fun q => ih false q
      · exact .bind failsOnly_colon fun _ => .bind failsOnly_skipValue fun _ => ih false p
    · exact .pure p

theorem failsOnly_readRow (h : ∀ f ∈ fields, f.InLine) {expected : String} (he : IsLine expected)
    (taken : ℕ) (p : σ) : FailsOnly (readRow expected fields taken p) Fault.InLine := by
  induction fields generalizing taken p with
  | nil => exact .pure p
  | cons f fs ih =>
    refine .bind (failsOnly_nextElement _) fun more => ?_
    split
    · refine .bind ((h f List.mem_cons_self).read p) fun q => ?_
      exact ih (fun g hg => h g (List.mem_cons_of_mem f hg)) _ q
    · exact .bind failsOnly_endList fun _ => failsOnly_fail_misfit he

/-- What the reader of a shape says is a line. -/
theorem failsOnly_read {shape : Shape σ α} (hname : IsLine shape.name)
    (hfields : ∀ f ∈ shape.fields, f.InLine) : FailsOnly shape.read Fault.InLine := by
  have hfinish : ∀ p, FailsOnly (shape.finish p) Fault.InLine := by
    intro p
    unfold finish
    split
    · exact .pure _
    · refine failsOnly_fail_misfit ?_
      show IsLine ((shape.fields.find? fun f => !f.isSet p).elim "" Field.name)
      cases hf : shape.fields.find? fun f => !f.isSet p with
      | none => exact (by decide : IsLine "")
      | some f => exact (hfields f (List.mem_of_find?_eq_some hf)).name
  have htitle : IsLine shape.title := by
    rw [title, isLine_append]
    exact ⟨by decide, hname⟩
  have hrow : IsLine shape.rowTitle := by
    rw [rowTitle, isLine_append, isLine_append, isLine_append]
    exact ⟨⟨⟨htitle, by decide⟩, isLine_nat _⟩, by decide⟩
  refine .bind failsOnly_firstByte fun b => ?_
  split_ifs
  · refine .bind failsOnly_pass fun _ => .bind failsOnly_get fun bs => ?_
    refine .bind (failsOnly_readMembers hfields _ true _) fun p => ?_
    exact .bind failsOnly_pass fun _ => hfinish p
  · refine .bind failsOnly_pass fun _ => .bind (failsOnly_readRow hfields hrow 0 _) fun p => ?_
    exact .bind failsOnly_endList fun _ => hfinish p
  · exact failsOnly_misfit htitle

end Shape

/-! ## Documents -/

/-- What is said of a document that is not decoded is a line. -/
theorem isLine_message_of_decode {r : Reader α} (h : FailsOnly r Fault.InLine) {text : List UInt8}
    {e : Error} (he : decode r text = .error e) : IsLine e.message := by
  have hdocument : FailsOnly (document r) Fault.InLine := by
    refine .bind h fun a => failsOnly_blanks_peek fun b => ?_
    split
    · exact failsOnly_failPast rfl
    · exact .pure a
  rw [decode_eq] at he
  cases hread : document r text with
  | ok p => rw [hread] at he; cases he
  | error f =>
    rw [hread] at he
    cases he
    rw [Error.message, isLine_append, isLine_append, isLine_append, isLine_append]
    exact ⟨⟨⟨⟨hdocument text f hread, by decide⟩, isLine_nat _⟩, by decide⟩, isLine_nat _⟩

end Json

end StarSurvey
