import StarSurvey.Json.Reader
import StarSurvey.Proofs.Reader
import Mathlib.Data.List.TakeWhile

/-!
# The steps of JSON readers

What the single steps take, that blanks are passed in front of what is not blank, when a whole document
is decoded (`decode_eq_ok_iff`), and why one is not (`exists_decode_eq_error`).
-/

namespace StarSurvey.Json

theorem reads_peek (bs : List UInt8) : Reads peek bs bs.head? bs := rfl

theorem reads_next (b : UInt8) (bs : List UInt8) : Reads next (b :: bs) (some b) bs := rfl

theorem reads_pass (b : UInt8) (bs : List UInt8) : Reads pass (b :: bs) () bs := rfl

/-- Nothing but blanks. -/
def AllBlank (bs : List UInt8) : Prop := ∀ b ∈ bs, isBlank b = true

theorem AllBlank.nil : AllBlank [] := fun _ h => nomatch h

theorem AllBlank.append {bs cs : List UInt8} (hbs : AllBlank bs) (hcs : AllBlank cs) :
    AllBlank (bs ++ cs) :=
  fun b hb => (List.mem_append.mp hb).elim (hbs b) (hcs b)

/-- Blanks are passed, and what is not blank stays. -/
theorem reads_blanks {bs : List UInt8} (h : AllBlank bs) {b : UInt8} (hb : isBlank b = false)
    (rest : List UInt8) : Reads blanks (bs ++ b :: rest) () (b :: rest) := by
  show Except.ok ((), (bs ++ b :: rest).dropWhile isBlank) = _
  rw [List.dropWhile_append_of_pos h, List.dropWhile_cons, hb]
  rfl

/-! ## Documents -/

variable {α : Type}

/-- A value with nothing but blanks behind it. -/
def document (r : Reader α) : Reader α := do
  let a ← r
  blanks
  if (← peek).isSome then failPast .trailingCharacters else pure a

theorem decode_eq (r : Reader α) (text : List UInt8) :
    decode r text = match document r text with
      | .ok (a, _) => .ok a
      | .error f => .error (f.locate text) := rfl

theorem decode_eq_ok_iff {r : Reader α} {text : List UInt8} {a : α} :
    decode r text = .ok a ↔ ∃ rest, Reads (document r) text a rest := by
  rw [decode_eq]
  cases h : document r text with
  | error f => simp [Reads, h]
  | ok p => simp [Reads, h, Prod.ext_iff]

/-- At the end of a document there are blanks only. -/
theorem decode_eq_ok_iff_of_settles {r : Reader α} {text back : List UInt8} {expected : Option α}
    (h : Settles r text expected back) (hback : AllBlank back) {a : α} :
    decode r text = .ok a ↔ expected = some a := by
  rw [decode_eq_ok_iff]
  constructor
  · rintro ⟨rest, hread⟩
    obtain ⟨c, middle, hr, hend⟩ := hread.exists_of_bind
    obtain ⟨hc, -⟩ := h.eq_of_reads hr
    obtain ⟨-, last, -, hpeek⟩ := hend.exists_of_bind
    obtain ⟨b, last', -, hlast⟩ := hpeek.exists_of_bind
    split at hlast
    · cases hlast
    · cases hlast
      exact hc
  · rintro rfl
    have hdrop : back.dropWhile isBlank = [] := List.dropWhile_eq_nil_iff.mpr hback
    have hblanks : Reads blanks back () [] := (reads_modify _ back).trans (by rw [hdrop])
    exact ⟨[], Reads.bind h (hblanks.bind ((reads_peek []).bind (.pure a [])))⟩

/-- Behind anything but blanks a document is not decoded. -/
theorem exists_decode_eq_error_of_settles {r : Reader α} {text back : List UInt8}
    {expected : Option α} (h : Settles r text expected back) (hback : ¬ AllBlank back) :
    ∃ e, decode r text = .error e := by
  cases hdecode : decode r text with
  | error e => exact ⟨e, rfl⟩
  | ok a =>
    exfalso
    obtain ⟨rest, hread⟩ := decode_eq_ok_iff.mp hdecode
    obtain ⟨c, middle, hr, hend⟩ := hread.exists_of_bind
    obtain ⟨-, rfl⟩ := h.eq_of_reads hr
    have htail := (reads_modify (List.dropWhile isBlank) middle).bind_eq.symm.trans hend
    obtain ⟨b, last, hpeek, hlast⟩ := Reads.exists_of_bind htail
    cases hpeek
    cases hdrop : middle.dropWhile isBlank with
    | nil => exact hback (List.dropWhile_eq_nil_iff.mp hdrop)
    | cons b bs =>
      rw [hdrop] at hlast
      cases hlast

/-- A document is not decoded for the cause for which its value is not read. -/
theorem exists_decode_eq_error {r : Reader α} {text : List UInt8} {c : Cause}
    (h : Fails r text fun f => f.cause = c) : ∃ e, decode r text = .error e ∧ e.cause = c := by
  obtain ⟨f, hf, hcause⟩ : Fails (document r) text fun f => f.cause = c := h.bind
  exact ⟨f.locate text, by rw [decode_eq, hf], hcause⟩

end StarSurvey.Json
