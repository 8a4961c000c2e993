import StarSurvey.Proofs.Partial

/-!
# What readers take, and what they can give

A reader goes through a text in front of it: it fails, or gives a value and leaves the rest.

- **Taking** (`Reads`): a reader takes some of a text for a value and leaves the rest. What a reader
  made of steps takes follows from what the steps take (`Reads.bind`).
- **Giving** (`Ensures`): whatever a reader takes, the value has a property.
- **Failing** (`Fails`): a reader fails for a reason of some kind, in its first step or in a later one.
- **Reasons** (`FailsOnly`): whatever a reader fails for, the reason is of some kind.
- **Settling** (`Settles`): a reader does what is expected of it, be it a value or a failure.
-/

namespace StarSurvey

variable {τ ε α β : Type} {r : StateT τ (Except ε) α} {s rest : τ} {a : α}

/-! ## Taking -/

/-- A reader takes some of a text for a value and leaves the rest. -/
def Reads (r : StateT τ (Except ε) α) (s : τ) (a : α) (rest : τ) : Prop := r s = .ok (a, rest)

namespace Reads

theorem pure (a : α) (s : τ) : Reads (Pure.pure a : StateT τ (Except ε) α) s a s := rfl

/-- Behind what a reader takes the next one goes on. -/
theorem bind_eq {f : α → StateT τ (Except ε) β} (h : Reads r s a rest) :
    (r >>= f) s = f a rest := by
  show (r s >>= fun p => f p.1 p.2) = _
  rw [show r s = .ok (a, rest) from h]
  rfl

/-- One reader after the other. -/
theorem bind {f : α → StateT τ (Except ε) β} {last : τ} {b : β} (h : Reads r s a rest)
    (h' : Reads (f a) rest b last) : Reads (r >>= f) s b last :=
  h.bind_eq.trans h'

theorem map (f : α → β) (h : Reads r s a rest) : Reads (f <$> r) s (f a) rest := by
  show (r s >>= fun p => .ok (f p.1, p.2)) = _
  rw [show r s = .ok (a, rest) from h]
  rfl

/-- What one reader after the other takes. -/
theorem exists_of_bind {f : α → StateT τ (Except ε) β} {b : β} (h : Reads (r >>= f) s b rest) :
    ∃ a middle, Reads r s a middle ∧ Reads (f a) middle b rest := by
  have hb : (r s >>= fun p => f p.1 p.2) = .ok (b, rest) := h
  obtain ⟨p, hr, hf⟩ := bind_eq_ok_iff.mp hb
  exact ⟨p.1, p.2, hr, hf⟩

end Reads

theorem reads_get (s : τ) : Reads (get : StateT τ (Except ε) τ) s s s := rfl

theorem reads_modify (f : τ → τ) (s : τ) :
    Reads (modify f : StateT τ (Except ε) PUnit) s PUnit.unit (f s) := rfl

/-! ## Giving -/

/-- Whatever a reader takes, the value has a property. -/
def Ensures (r : StateT τ (Except ε) α) (P : α → Prop) : Prop :=
  ∀ s a rest, Reads r s a rest → P a

namespace Ensures

variable {P : α → Prop} {Q : β → Prop}

theorem pure (h : P a) : Ensures (Pure.pure a : StateT τ (Except ε) α) P := by
  intro s b rest hb
  cases hb
  exact h

theorem bind {f : α → StateT τ (Except ε) β} (h : Ensures r P)
    (h' : ∀ a, P a → Ensures (f a) Q) : Ensures (r >>= f) Q := by
  intro s b rest hb
  obtain ⟨a, middle, hr, hf⟩ := hb.exists_of_bind
  exact h' a (h s a middle hr) middle b rest hf

/-- Of the first reader nothing need be known. -/
theorem bind_of_forall {f : α → StateT τ (Except ε) β} (h : ∀ a, Ensures (f a) Q) :
    Ensures (r >>= f) Q :=
  bind (fun _ _ _ _ => trivial) fun a (_ : True) => h a

theorem map {f : α → β} (h : Ensures r fun a => Q (f a)) : Ensures (f <$> r) Q := by
  intro s b rest hb
  have hmap : (r s >>= fun p => .ok (f p.1, p.2)) = .ok (b, rest) := hb
  obtain ⟨p, hr, hp⟩ := bind_eq_ok_iff.mp hmap
  cases hp
  exact h s p.1 p.2 hr

/-- A reader that always fails gives nothing. -/
theorem of_error {e : τ → ε} : Ensures (fun s => .error (e s) : StateT τ (Except ε) α) P :=
  fun _ _ _ h => nomatch h

end Ensures

/-! ## Failing -/

/-- A reader fails for a reason of some kind. -/
def Fails (r : StateT τ (Except ε) α) (s : τ) (P : ε → Prop) : Prop := ∃ e, r s = .error e ∧ P e

namespace Fails

variable {P : ε → Prop}

/-- What follows a failure is not reached. -/
theorem bind {f : α → StateT τ (Except ε) β} (h : Fails r s P) : Fails (r >>= f) s P := by
  obtain ⟨e, he, hP⟩ := h
  refine ⟨e, ?_, hP⟩
  show (r s >>= fun p => f p.1 p.2) = _
  rw [he]
  rfl

theorem bind_of_reads {f : α → StateT τ (Except ε) β} (h : Reads r s a rest)
    (h' : Fails (f a) rest P) : Fails (r >>= f) s P := by
  obtain ⟨e, he, hP⟩ := h'
  exact ⟨e, h.bind_eq.trans he, hP⟩

theorem map (f : α → β) (h : Fails r s P) : Fails (f <$> r) s P := by
  obtain ⟨e, he, hP⟩ := h
  refine ⟨e, ?_, hP⟩
  show (r s >>= fun p => .ok (f p.1, p.2)) = _
  rw [he]
  rfl

end Fails

/-- A reader that takes nothing fails. -/
theorem Ensures.fails (h : Ensures r fun _ => False) (s : τ) : Fails r s fun _ => True := by
  cases hr : r s with
  | error e => exact ⟨e, hr, trivial⟩
  | ok p => exact (h s p.1 p.2 hr).elim

/-! ## Reasons -/

/-- Whatever a reader fails for, the reason is of some kind. -/
def FailsOnly (r : StateT τ (Except ε) α) (P : ε → Prop) : Prop := ∀ s e, r s = .error e → P e

namespace FailsOnly

variable {P : ε → Prop}

theorem pure (a : α) : FailsOnly (Pure.pure a : StateT τ (Except ε) α) P := fun _ _ h => nomatch h

/-- A step that never fails has no reasons. -/
theorem of_ok {f : τ → α × τ} : FailsOnly (fun s => .ok (f s) : StateT τ (Except ε) α) P :=
  fun _ _ h => nomatch h

theorem bind {f : α → StateT τ (Except ε) β} (h : FailsOnly r P)
    (h' : ∀ a, FailsOnly (f a) P) : FailsOnly (r >>= f) P := by
  intro s e he
  cases hr : r s with
  | error e' =>
    have hfail : (r >>= f) s = .error e' := by
      show (r s >>= fun p => f p.1 p.2) = _
      rw [hr]
      rfl
    rw [hfail] at he
    cases he
    exact h s e hr
  | ok p =>
    rw [Reads.bind_eq (show Reads r s p.1 p.2 from hr)] at he
    exact h' p.1 p.2 e he

theorem map (f : α → β) (h : FailsOnly r P) : FailsOnly (f <$> r) P := by
  rw [map_eq_pure_bind]
  exact h.bind fun a => .pure (f a)

end FailsOnly

/-! ## Settling -/

/-- A reader takes some of a text for what is expected and leaves the rest; it fails if nothing is
expected. -/
def Settles (r : StateT τ (Except ε) α) (s : τ) (expected : Option α) (rest : τ) : Prop :=
  match expected with
  | some a => Reads r s a rest
  | none => Fails r s fun _ => True

namespace Settles

variable {expected : Option α}

/-- Behind what a reader takes the next one settles what is expected of both. -/
theorem bind {f : α → StateT τ (Except ε) β} {k : α → Option β} {last : τ}
    (h : Settles r s expected rest) (h' : ∀ a, expected = some a → Settles (f a) rest (k a) last) :
    Settles (r >>= f) s (expected.bind k) last := by
  cases expected with
  | none => exact Fails.bind h
  | some a =>
    have hnext := h' a rfl
    rw [Option.bind_some]
    cases hk : k a with
    | none =>
      rw [hk] at hnext
      exact Fails.bind_of_reads h hnext
    | some b =>
      rw [hk] at hnext
      exact Reads.bind h hnext

theorem map (f : α → β) (h : Settles r s expected rest) :
    Settles (f <$> r) s (expected.map f) rest := by
  cases expected with
  | none => exact Fails.map f h
  | some a => exact Reads.map f h

/-- What is expected is what a reader gives. -/
theorem eq_of_reads (h : Settles r s expected rest) {last : τ} (hr : Reads r s a last) :
    expected = some a ∧ last = rest := by
  cases expected with
  | none =>
    obtain ⟨e, he, -⟩ := h
    cases hr.symm.trans he
  | some b =>
    cases hr.symm.trans h
    exact ⟨rfl, rfl⟩

end Settles

theorem Reads.settles (h : Reads r s a rest) : Settles r s (some a) rest := h

/-- Behind what a reader takes for certain the next one settles what is expected. -/
theorem Reads.settles_bind {f : α → StateT τ (Except ε) β} {expected : Option β} {last : τ}
    (h : Reads r s a rest) (h' : Settles (f a) rest expected last) :
    Settles (r >>= f) s expected last :=
  h.settles.bind (k := fun _ => expected) fun _ ha => by
    cases ha
    exact h'

theorem Ensures.settles (h : Ensures r fun _ => False) (s rest : τ) : Settles r s none rest :=
  h.fails s

end StarSurvey
