import StarSurvey.Proofs.Console

/-!
# A console with an end

A text is written piece by piece, and each piece in as many calls as it takes. What becomes of the
text hangs on the room alone, since pieces come to the same as their whole text (`putAll_eq_put`).

- **Calls** (`writeAll_eq`, `performByCalls_eq`): a piece is written by calls that take what there is
  room for, until nothing is left or the pipe breaks, and a step is done by such calls.
- **Steps** (`perform_of_room`): what one step writes, loses and answers, and what room it leaves.
- **Scripts** (`run_within_room`): the same behind any other steps, with new room among them or not.
-/

namespace StarSurvey

namespace Console

open Text

variable {c : Console}

/-! ## Calls -/

/-- Why a call fails. -/
inductive WriteFault where
  | brokenPipe
  deriving DecidableEq, Repr

/-- One call with some bytes, and how many of them are taken: as many as there is room for. Without
any room the pipe is broken. -/
def write (c : Console) (bs : List UInt8) : Except WriteFault (Console × Nat) :=
  match c.room with
  | none => .ok ({ c with written := c.written ++ bs }, bs.length)
  | some 0 => .error .brokenPipe
  | some n =>
    .ok ({ c with room := some (n - bs.length), written := c.written ++ bs.take n }, min n bs.length)

/-- A call that does not fail takes something. -/
theorem pos_of_write {bs : List UInt8} {taken : Nat} {c' : Console} (hbs : bs ≠ [])
    (h : c.write bs = .ok (c', taken)) : 0 < taken := by
  have hlen : 0 < bs.length := List.length_pos_iff.mpr hbs
  unfold write at h
  split at h
  · cases h
    exact hlen
  · cases h
  · rename_i n hn _
    cases h
    have : n ≠ 0 := by rintro rfl; simp_all
    omega

/-- Calls with what is left of some bytes until nothing is left. -/
def writeAll (c : Console) (bs : List UInt8) : Console × Except WriteFault Unit :=
  if bs = [] then (c, .ok ())
  else match _h : c.write bs with
    | .error f => (c, .error f)
    | .ok (c', taken) => c'.writeAll (bs.drop taken)
termination_by bs.length
decreasing_by
  rename_i hbs
  have := pos_of_write hbs _h
  have := List.length_pos_iff.mpr hbs
  simp only [List.length_drop]
  omega

/-- Whether all of a text got through, as a call would say it. -/
def answer (whole : Bool) : Except WriteFault Unit := if whole then .ok () else .error .brokenPipe

theorem writeAll_nil (c : Console) : c.writeAll [] = (c, .ok ()) := by
  rw [writeAll, if_pos rfl]

theorem writeAll_of_write {bs : List UInt8} {c' : Console} {taken : Nat} (hbs : bs ≠ [])
    (h : c.write bs = .ok (c', taken)) : c.writeAll bs = c'.writeAll (bs.drop taken) := by
  rw [writeAll, if_neg hbs]
  split
  · rename_i f hf
    cases h.symm.trans hf
  · rename_i c'' taken' hok
    cases h.symm.trans hok
    rfl

theorem writeAll_of_full {bs : List UInt8} (hroom : c.room = some 0) (hbs : bs ≠ []) :
    c.writeAll bs = (c, .error .brokenPipe) := by
  have hwrite : c.write bs = .error .brokenPipe := by simp [write, hroom]
  rw [writeAll, if_neg hbs]
  split
  · rename_i f hf
    cases hwrite.symm.trans hf
    rfl
  · rename_i hok
    cases hwrite.symm.trans hok

/-- Calls until nothing is left do what putting the bytes at once does. -/
theorem writeAll_eq (c : Console) (bs : List UInt8) :
    c.writeAll bs = ((c.put bs).1, answer (c.put bs).2) := by
  obtain ⟨room, written, lost⟩ := c
  by_cases hbs : bs = []
  · subst hbs
    cases room <;> simp [writeAll_nil, put, answer]
  rcases room with _ | _ | n
  · have hwrite : write ⟨none, written, lost⟩ bs = .ok (⟨none, written ++ bs, lost⟩, bs.length) := rfl
    rw [writeAll_of_write hbs hwrite, List.drop_length, writeAll_nil]
    rfl
  · rw [writeAll_of_full (c := ⟨some 0, written, lost⟩) rfl hbs]
    simp [put, answer, hbs]
  · have hwrite : write ⟨some (n + 1), written, lost⟩ bs =
        .ok (⟨some (n + 1 - bs.length), written ++ bs.take (n + 1), lost⟩, min (n + 1) bs.length) := rfl
    rw [writeAll_of_write hbs hwrite]
    by_cases hfit : bs.length ≤ n + 1
    · rw [Nat.min_eq_right hfit, List.drop_length, writeAll_nil]
      simp [put, answer, hfit]
    · -- the first call takes what there is room for, the second one fails
      have hmore : bs.drop (n + 1) ≠ [] := by
        rw [ne_eq, List.drop_eq_nil_iff]
        exact hfit
      have hroom : n + 1 - bs.length = 0 := by omega
      rw [Nat.min_eq_left (by omega), hroom, writeAll_of_full rfl hmore]
      simp [put, answer, hfit, hroom]

/-- Pieces one after the other, up to the first that does not get through. -/
def writePieces (c : Console) : List String → Console × Except WriteFault Unit
  | [] => (c, .ok ())
  | piece :: pieces =>
    match c.writeAll (bytes piece) with
    | (c, .ok ()) => c.writePieces pieces
    | (c, .error f) => (c, .error f)

theorem writePieces_eq (c : Console) (pieces : List String) :
    c.writePieces pieces = ((c.putAll pieces).1, answer (c.putAll pieces).2) := by
  induction pieces generalizing c with
  | nil => rfl
  | cons piece pieces ih =>
    rw [writePieces, writeAll_eq, putAll]
    obtain ⟨c', whole⟩ := c.put (bytes piece)
    cases whole with
    | true => exact ih c'
    | false => rfl

/-- Whether what was written gets through. A console that is full lets nothing through. -/
def flush (c : Console) : Except WriteFault Unit := answer (c.room != some 0)

/-! ## Steps -/

/-- What is done with a console. -/
inductive Act where
  /-- An outcome is reported: a record or a failure. -/
  | report (o : Outcome)
  | summary (s : Stats)
  /-- From now on there is room for so many bytes. -/
  | setRoom (n : Nat)

namespace Act

/-- The text that is to be written, with the end of its line. -/
def text : Act → String
  | .report o => outcomeText o ++ "\n"
  | .summary s => s.summary
  | .setRoom _ => ""

/-- The bytes of the text. -/
def bytes (a : Act) : List UInt8 := Text.bytes a.text

/-- How many bytes the text has. -/
def size (a : Act) : Nat := a.bytes.length

/-- The room that is left of some. -/
def leaves (room : Nat) : Act → Nat
  | .setRoom n => n
  | a => room - a.size

/-- The console behind a step, and what a summary is answered with. -/
def perform (c : Console) : Act → Console × Option (Except WriteFault Unit)
  | .report o => (c.report o, none)
  | .summary s => ((c.summary s).1, some (answer (c.summary s).2))
  | .setRoom n => ({ c with room := some n }, none)

/-- The same call by call: the pieces and the end of the line, or the pieces and then a flush. -/
def performByCalls (c : Console) : Act → Console × Option (Except WriteFault Unit)
  | .report o =>
    let (c, told) := c.writePieces (outcomePieces o ++ ["\n"])
    ({ c with lineLost := c.lineLost || !told.isOk }, none)
  | .summary s =>
    let (c, told) := c.writePieces s.summaryPieces
    (c, some (told.bind fun _ => c.flush))
  | .setRoom n => ({ c with room := some n }, none)

theorem performByCalls_eq (c : Console) (a : Act) : a.performByCalls c = a.perform c := by
  cases a with
  | report o =>
    rw [performByCalls, perform, writePieces_eq, Console.report, line]
    obtain ⟨c', whole⟩ := c.putAll (outcomePieces o ++ ["\n"])
    cases whole <;> rfl
  | summary s =>
    rw [performByCalls, perform, writePieces_eq, Console.summary]
    obtain ⟨c', whole⟩ := c.putAll s.summaryPieces
    cases whole <;> rfl
  | setRoom n => rfl

/-- A line about a node that does not fit. -/
def Overflows (room : Nat) (a : Act) : Prop := ∃ o, a = .report o ∧ room < a.size

end Act

/-- A line about a node is put as a whole, and lost unless all of it fits. -/
theorem report_eq (c : Console) (o : Outcome) :
    c.report o = { (c.put (Act.report o).bytes).1 with
      lineLost := c.lineLost || !(c.put (Act.report o).bytes).2 } := by
  have htext : String.join (outcomePieces o ++ ["\n"]) = (Act.report o).text := by
    rw [String.join_append]
    rfl
  have hlost : (c.put (Act.report o).bytes).1.lineLost = c.lineLost := by
    unfold put
    split <;> rfl
  rw [report, line, putAll_eq_put, htext, ← hlost]
  rfl

theorem summary_eq (c : Console) (s : Stats) :
    c.summary s = ((c.put (Act.summary s).bytes).1,
      (c.put (Act.summary s).bytes).2 && (c.put (Act.summary s).bytes).1.room != some 0) := by
  rw [summary, putAll_eq_put]
  rfl

/-- What one step does to a console with room for so many bytes. Of its text it writes what fits, and
this much room is gone. Only a line about a node that does not fit is remembered. A summary gets
through if room is left behind it. -/
theorem perform_of_room {room : Nat} (h : c.room = some room) (a : Act) :
    let after := (a.perform c).1
    after.room = some (a.leaves room) ∧
    after.written = c.written ++ a.bytes.take room ∧
    (after.lineLost = true ↔ c.lineLost = true ∨ a.Overflows room) ∧
    ∀ s, a = .summary s → (a.perform c).2 = some (answer (a.size < room)) := by
  have hput : c.put a.bytes = (⟨some (room - a.size), c.written ++ a.bytes.take room, c.lineLost⟩,
      decide (a.size ≤ room)) := by
    rw [put, h]
    rfl
  cases a with
  | report o =>
    simp only [Act.perform, report_eq, hput, Act.leaves, Act.Overflows]
    refine ⟨trivial, trivial, by simp, ?_⟩
    rintro s ⟨⟩
  | summary s =>
    simp only [Act.perform, summary_eq, hput, Act.leaves, Act.Overflows]
    have hleft : (decide ((Act.summary s).size ≤ room) &&
        some (room - (Act.summary s).size) != some 0) = decide ((Act.summary s).size < room) := by
      rw [Bool.eq_iff_iff]
      simp
      omega
    refine ⟨trivial, trivial, by simp, ?_⟩
    rintro s ⟨⟩
    rw [hleft]
  | setRoom n =>
    simp [Act.perform, Act.leaves, Act.Overflows, Act.bytes, Act.text, Text.bytes]

/-! ## Scripts -/

/-- The console behind some steps. -/
def run (c : Console) (acts : List Act) : Console := acts.foldl (fun c a => (a.perform c).1) c

/-- The room that some steps leave of some. -/
def roomAfter (room : Nat) (acts : List Act) : Nat := acts.foldl Act.leaves room

theorem run_append (c : Console) (acts : List Act) (a : Act) :
    c.run (acts ++ [a]) = (a.perform (c.run acts)).1 := by
  simp [run]

theorem roomAfter_append (room : Nat) (acts : List Act) (a : Act) :
    roomAfter room (acts ++ [a]) = a.leaves (roomAfter room acts) := by
  simp [roomAfter]

/-- Some step of a script is a line about a node that does not fit into the room that it meets. -/
def LosesLine (room : Nat) (acts : List Act) : Prop :=
  ∃ before a behind, acts = before ++ a :: behind ∧ a.Overflows (roomAfter room before)

theorem losesLine_append (room : Nat) (acts : List Act) (a : Act) :
    LosesLine room (acts ++ [a]) ↔ LosesLine room acts ∨ a.Overflows (roomAfter room acts) := by
  constructor
  · rintro ⟨before, b, behind, heq, hb⟩
    rcases List.eq_nil_or_concat' behind with rfl | ⟨rest, d, rfl⟩
    · obtain ⟨rfl, hab⟩ := List.append_inj' heq rfl
      obtain rfl : a = b := List.singleton_inj.mp hab
      exact .inr hb
    · rw [← List.cons_append, ← List.append_assoc] at heq
      exact .inl ⟨before, b, rest, (List.append_inj' heq rfl).1, hb⟩
  · rintro (⟨before, b, behind, rfl, hb⟩ | ha)
    · exact ⟨before, b, behind ++ [a], by simp, hb⟩
    · exact ⟨acts, a, [], rfl, ha⟩

theorem run_of_room (room : Nat) (acts : List Act) :
    let c := run { room := some room } acts
    c.room = some (roomAfter room acts) ∧ (c.lineLost = true ↔ LosesLine room acts) := by
  induction acts using List.reverseRecOn with
  | nil =>
    refine ⟨rfl, iff_of_false nofun ?_⟩
    rintro ⟨before, a, behind, heq, -⟩
    simp at heq
  | append_singleton acts a ih =>
    obtain ⟨hroom, hlost⟩ := ih
    obtain ⟨hroom', -, hlost', -⟩ := perform_of_room hroom a
    rw [run_append, roomAfter_append, losesLine_append]
    exact ⟨hroom', hlost'.trans (or_congr_left hlost)⟩

/-- Without new room the room is what the texts leave of it, and of the texts in a row the beginning is
written for which there is room. -/
theorem run_of_no_setRoom (room : Nat) {acts : List Act} (h : ∀ n, .setRoom n ∉ acts) :
    roomAfter room acts = room - (acts.flatMap Act.bytes).length ∧
    (run { room := some room } acts).written = (acts.flatMap Act.bytes).take room := by
  induction acts using List.reverseRecOn with
  | nil => simp [roomAfter, run]
  | append_singleton acts a ih =>
    have hacts : ∀ n, .setRoom n ∉ acts := fun n hn => h n (List.mem_append_left _ hn)
    have hleaves : a.leaves (roomAfter room acts) = roomAfter room acts - a.size := by
      cases a with
      | report o => rfl
      | summary s => rfl
      | setRoom n => exact absurd (List.mem_append_right _ List.mem_cons_self) (h n)
    obtain ⟨hroom, hwritten⟩ := ih hacts
    obtain ⟨-, hstep, -, -⟩ := perform_of_room (run_of_room room acts).1 a
    rw [roomAfter_append, run_append, hstep, hleaves, hroom, hwritten, List.flatMap_append,
      List.flatMap_singleton, List.take_append, List.length_append, Act.size]
    exact ⟨by omega, rfl⟩

/-- **A console with an end.** Behind any steps, a record, a failure or a summary writes of its text,
with the end of its line, as many bytes as there is room for, and nothing else. A line is reported as
lost from the first record or failure on whose text is longer than the room it meets: neither a line
that fits nor new room takes that back, and no summary brings it about. A summary gets through if and
only if its text is shorter than the room, and else the pipe is broken. If no new room is given, the
console holds what fits of all texts in a row. All this is what comes of calls that take as much of each
piece as there is room for and fail when there is none. -/
theorem run_within_room (room : Nat) (acts : List Act) (a : Act) :
    let before := run { room := some room } acts
    let after := (a.perform before).1
    let told := (a.perform before).2
    before.room = some (roomAfter room acts) ∧
    after.written = before.written ++ a.bytes.take (min (roomAfter room acts) a.size) ∧
    (after.lineLost = true ↔ LosesLine room (acts ++ [a])) ∧
    (∀ s, a = .summary s →
      (told = some (.ok ()) ↔ a.size < roomAfter room acts) ∧
      (told = some (.error .brokenPipe) ↔ roomAfter room acts ≤ a.size)) ∧
    ((∀ n, .setRoom n ∉ acts) → before.written = (acts.flatMap Act.bytes).take room) ∧
    a.performByCalls before = (after, told) := by
  obtain ⟨hroom, hlost⟩ := run_of_room room acts
  obtain ⟨-, hwritten, hlost', htold⟩ := perform_of_room hroom a
  refine ⟨hroom, ?_, ?_, ?_, fun h => (run_of_no_setRoom room h).2, a.performByCalls_eq _⟩
  · rw [hwritten, List.take_eq_take_min]
    rfl
  · rw [losesLine_append]
    exact hlost'.trans (or_congr_left hlost)
  · intro s hs
    rw [htold s hs]
    by_cases hfit : a.size < roomAfter room acts
    · simp [answer, hfit]
    · simp only [answer, hfit, decide_false, Bool.false_eq_true, if_false]
      simp
      omega

/-- There is room for the failure and for the beginning of the record. Then there is room for all bytes
of the summary and for no more, and that is too little. -/
theorem run_within_room_of_a_lost_line :
    let start : Calendar.Instant := ⟨0, 0, 0, by decide, by decide, by decide⟩
    let sol : Record := ⟨"Sol", ⟨.g, "Yellow dwarf"⟩, .origin, start⟩
    let lines : List Act := [.report (Contact.outcome .up ⟨"b:2", .dropped⟩), .report ⟨"a:1", .ok sol⟩]
    let summary : Act := .summary (Stats.ofRecords [sol])
    let acts := lines ++ [.setRoom summary.size]
    (∀ n, .setRoom n ∉ lines) ∧
    (run { room := some 128 } lines).written = (lines.flatMap Act.bytes).take 128 ∧
    (summary.perform (run { room := some 128 } acts)).1.lineLost = true ∧
    (summary.perform (run { room := some 128 } acts)).2 = some (.error .brokenPipe) := by
  intro start sol lines summary acts
  have hlines : ∀ n, Act.setRoom n ∉ lines := by
    intro n
    simp [lines]
  obtain ⟨-, -, -, -, hwritten, -⟩ := run_within_room 128 lines summary
  obtain ⟨-, -, hlost, htold, -⟩ := run_within_room 128 acts summary
  have hroom : roomAfter 128 acts ≤ summary.size := by
    rw [roomAfter_append]
    exact Nat.le_refl _
  refine ⟨hlines, hwritten hlines, hlost.mpr ?_, (htold _ rfl).2.mpr hroom⟩
  exact ⟨[lines[0]], lines[1], [.setRoom summary.size, summary], rfl, _, rfl, by decide +kernel⟩

end Console

end StarSurvey
