import Mathlib.Tactic.SplitIfs
import StarSurvey.Toml.Reader

/-!
# What a reader takes does not hang on what stands behind it

The content of a line ends in front of a comment, an end of line or the end of the text. A reader is
framed if it takes the same in front of each of them.

- **Shrinking** (`Shrinks`): a reader leaves an end of the text in front of it.
- **Deciding** (`Decided`): in front of a stop a reader does what it does at the end of the text, be it
  a value or a failure.
- **Framing** (`FramedTo`): if a reader takes something and leaves a stop, so it does with any other
  stop. The texts are bounded because the fuel of a reader hangs on all that is in front of it.
-/

namespace StarSurvey.Toml

variable {α β : Type} {r r' : Reader α} {f f' : α → Reader β}

/-! ## Steps -/

theorem pure_eq (a : α) (cs : List Char) : (pure a : Reader α) cs = some (a, cs) := rfl

theorem bind_eq (r : Reader α) (f : α → Reader β) (cs : List Char) :
    (r >>= f) cs = (r cs).bind fun x => f x.1 x.2 := rfl

theorem bind_eq_some_iff {cs l : List Char} {b : β} :
    (r >>= f) cs = some (b, l) ↔ ∃ a m, r cs = some (a, m) ∧ f a m = some (b, l) := by
  simp [bind_eq, Option.bind_eq_some_iff]

theorem peek_bind_eq (f : Option Char → Reader β) (cs : List Char) :
    (peek >>= f) cs = f cs.head? cs := rfl

theorem discard_eq (r : Reader α) : discard r = r >>= fun _ => pure PUnit.unit := rfl

theorem next_eq_some_iff {cs l : List Char} {c : Char} : next cs = some (c, l) ↔ cs = c :: l := by
  cases cs <;> simp [next]

theorem accept_eq_some_true_iff {mark cs l : List Char} :
    accept mark cs = some (true, l) ↔ cs = mark ++ l := by
  unfold accept
  split
  · next h =>
    obtain ⟨u, rfl⟩ := List.isPrefixOf_iff_prefix.mp h
    simp
  · next h =>
    refine iff_of_false nofun ?_
    rintro rfl
    exact h (List.isPrefixOf_iff_prefix.mpr (List.prefix_append mark l))

theorem exactly_eq_some_iff {mark cs l : List Char} {u : Unit} :
    exactly mark cs = some (u, l) ↔ cs = mark ++ l := by
  unfold exactly
  split
  · next h =>
    obtain ⟨v, rfl⟩ := List.isPrefixOf_iff_prefix.mp h
    simp
  · next h =>
    refine iff_of_false nofun ?_
    rintro rfl
    exact h (List.isPrefixOf_iff_prefix.mpr (List.prefix_append mark l))

/-! ## Shrinking -/

/-- A reader leaves an end of the text in front of it. -/
def Shrinks (r : Reader α) : Prop := ∀ ⦃cs a l⦄, r cs = some (a, l) → l <:+ cs

namespace Shrinks

theorem pure (a : α) : Shrinks (Pure.pure a) := by
  intro cs b l h
  cases h
  exact List.suffix_rfl

theorem failure : Shrinks (failure : Reader α) := nofun

theorem bind (h : Shrinks r) (h' : ∀ a, Shrinks (f a)) : Shrinks (r >>= f) := by
  intro cs b l hl
  obtain ⟨a, m, hm, hl⟩ := bind_eq_some_iff.mp hl
  exact (h' a hl).trans (h hm)

theorem map (g : α → β) (h : Shrinks r) : Shrinks (g <$> r) := h.bind fun _ => .pure _

theorem discard (h : Shrinks r) : Shrinks (discard r) := h.bind fun _ => .pure _

theorem oneOf (h : Shrinks r) (h' : Shrinks r') : Shrinks (oneOf r r') := by
  intro cs a l hl
  cases hr : r cs with
  | none => exact h' (by simpa [Toml.oneOf, hr] using hl)
  | some x =>
    obtain rfl : x = (a, l) := by simpa [Toml.oneOf, hr] using hl
    exact h hr

theorem peek : Shrinks peek := by
  intro cs a l h
  cases h
  exact List.suffix_rfl

theorem next : Shrinks next := by
  intro cs c l h
  obtain rfl := next_eq_some_iff.mp h
  exact List.suffix_cons c l

theorem exactly (mark : List Char) : Shrinks (exactly mark) := by
  intro cs u l h
  obtain rfl := exactly_eq_some_iff.mp h
  exact List.suffix_append mark l

theorem accept (mark : List Char) : Shrinks (accept mark) := by
  intro cs a l h
  unfold Toml.accept at h
  split at h
  · cases h
    exact List.drop_suffix _ _
  · cases h
    exact List.suffix_rfl

theorem takeAll (p : Char → Bool) : Shrinks (takeAll p) := by
  intro cs a l h
  cases h
  exact List.dropWhile_suffix p

theorem get : Shrinks (get : Reader (List Char)) := by
  intro cs a l h
  cases h
  exact List.suffix_rfl

theorem lift (o : Option α) : Shrinks (liftM o : Reader α) := by
  intro cs a l h
  cases o with
  | none => cases h
  | some b =>
    cases h
    exact List.suffix_rfl

end Shrinks

/-- A reader takes at least so many characters. -/
def Eats (k : Nat) (r : Reader α) : Prop :=
  ∀ ⦃cs a l⦄, r cs = some (a, l) → l.length + k ≤ cs.length

namespace Eats

variable {k : Nat}

theorem failure : Eats k (failure : Reader α) := nofun

theorem next : Eats 1 next := by
  intro cs c l h
  obtain rfl := next_eq_some_iff.mp h
  exact Nat.le_refl _

/-- What the first reader takes counts. -/
theorem bind_left (h : Eats k r) (h' : ∀ a, Shrinks (f a)) : Eats k (r >>= f) := by
  intro cs b l hl
  obtain ⟨a, m, hm, hl⟩ := bind_eq_some_iff.mp hl
  have hle := (h' a hl).length_le
  have := h hm
  omega

/-- What the second reader takes counts. -/
theorem bind_right (h : Shrinks r) (h' : ∀ a, Eats k (f a)) : Eats k (r >>= f) := by
  intro cs b l hl
  obtain ⟨a, m, hm, hl⟩ := bind_eq_some_iff.mp hl
  have hle := (h hm).length_le
  have := h' a hl
  omega

/-- A mark that is there is taken. -/
theorem accept_bind {mark : List Char} {f : Bool → Reader β} (hmark : k ≤ mark.length)
    (htrue : Shrinks (f true)) (hfalse : Eats k (f false)) : Eats k (accept mark >>= f) := by
  intro cs b l hl
  obtain ⟨found, m, hm, hl⟩ := bind_eq_some_iff.mp hl
  unfold accept at hm
  split at hm
  · next hpre =>
    cases hm
    have hle := (htrue hl).length_le
    have := (List.isPrefixOf_iff_prefix.mp hpre).length_le
    simp only [List.length_drop] at hle
    omega
  · cases hm
    exact hfalse hl

end Eats

/-! ## Stops -/

/-- A character in front of which the content of a line ends. -/
def isStop (c : Char) : Bool := c == '#' || c == '\n' || c == '\r'

/-- In front of this text the content of a line may end. -/
def Stops (t : List Char) : Prop := ∀ c ∈ t.head?, isStop c = true

@[simp] theorem stops_nil : Stops [] := nofun

@[simp] theorem stops_cons (c : Char) (t : List Char) : Stops (c :: t) ↔ isStop c = true := by
  simp [Stops]

/-- A mark that is no stop and has none in it. -/
def isMark (mark : List Char) : Bool := !mark.isEmpty && mark.all fun c => !isStop c

theorem ne_nil_of_isMark {mark : List Char} (h : isMark mark = true) : mark ≠ [] := by
  rintro rfl
  cases h

theorem isStop_of_isMark {mark : List Char} (h : isMark mark = true) :
    ∀ c ∈ mark, isStop c = false := by
  have hall := (Bool.and_eq_true_iff.mp h).2
  simpa using hall

/-- A class of characters none of which is a stop. -/
def Passes (p : Char → Bool) : Prop := ∀ c, isStop c = true → p c = false

section Append

variable {p : Char → Bool} {t : List Char}

theorem takeWhile_append_stops (hp : Passes p) (ht : Stops t) (cs : List Char) :
    (cs ++ t).takeWhile p = cs.takeWhile p := by
  induction cs with
  | nil =>
    cases t with
    | nil => rfl
    | cons c t => simp [hp c (by simpa using ht)]
  | cons c cs ih => simp only [List.cons_append, List.takeWhile_cons, ih]

theorem dropWhile_append_stops (hp : Passes p) (ht : Stops t) (cs : List Char) :
    (cs ++ t).dropWhile p = cs.dropWhile p ++ t := by
  induction cs with
  | nil =>
    cases t with
    | nil => rfl
    | cons c t => simp [hp c (by simpa using ht)]
  | cons c cs ih =>
    rw [List.cons_append, List.dropWhile_cons, List.dropWhile_cons, ih]
    split <;> rfl

theorem isPrefixOf_append_stops {mark : List Char} (hmark : ∀ c ∈ mark, isStop c = false)
    (ht : Stops t) (cs : List Char) : mark.isPrefixOf (cs ++ t) = mark.isPrefixOf cs := by
  induction mark generalizing cs with
  | nil => simp
  | cons m ms ih =>
    rw [List.forall_mem_cons] at hmark
    cases cs with
    | cons c cs => simp [List.isPrefixOf, ih hmark.2]
    | nil =>
      cases t with
      | nil => rfl
      | cons c t =>
        have hne : m ≠ c := by
          rintro rfl
          simp [hmark.1] at ht
        simp [List.isPrefixOf, hne]

/-- No mark begins with a stop. -/
theorem not_isPrefixOf_stops {mark : List Char} (hmark : isMark mark = true) (ht : Stops t) :
    mark.isPrefixOf t = false := by
  rw [← List.nil_append t, isPrefixOf_append_stops (isStop_of_isMark hmark) ht]
  cases mark with
  | nil => cases hmark
  | cons m ms => rfl

theorem accept_stops {mark : List Char} (hmark : isMark mark = true) (ht : Stops t) :
    accept mark t = some (false, t) := by
  simp [accept, not_isPrefixOf_stops hmark ht]

theorem exactly_stops {mark : List Char} (hmark : isMark mark = true) (ht : Stops t) :
    exactly mark t = none := by
  simp [exactly, not_isPrefixOf_stops hmark ht]

end Append

/-! ## Deciding -/

/-- In front of a stop a reader does what it does at the end of the text. -/
structure Decided (r : Reader α) : Prop where
  shrinks : Shrinks r
  append : ∀ cs t, Stops t → r (cs ++ t) = (r cs).map fun x => (x.1, x.2 ++ t)

namespace Decided

theorem pure (a : α) : Decided (Pure.pure a) := ⟨.pure a, fun _ _ _ => rfl⟩

theorem failure : Decided (failure : Reader α) := ⟨.failure, fun _ _ _ => rfl⟩

theorem lift (o : Option α) : Decided (liftM o : Reader α) where
  shrinks := .lift o
  append cs t _ := by cases o <;> rfl

theorem bind (h : Decided r) (h' : ∀ a, Decided (f a)) : Decided (r >>= f) where
  shrinks := h.shrinks.bind fun a => (h' a).shrinks
  append cs t ht := by
    rw [bind_eq, bind_eq, h.append cs t ht]
    cases r cs with
    | none => rfl
    | some x => exact (h' x.1).append x.2 t ht

theorem discard (h : Decided r) : Decided (discard r) := h.bind fun _ => .pure _

theorem oneOf (h : Decided r) (h' : Decided r') : Decided (oneOf r r') where
  shrinks := h.shrinks.oneOf h'.shrinks
  append cs t ht := by
    unfold Toml.oneOf
    rw [h.append cs t ht, h'.append cs t ht]
    cases r cs <;> rfl

theorem takeAll {p : Char → Bool} (hp : Passes p) : Decided (takeAll p) where
  shrinks := .takeAll p
  append cs t ht := by
    simp [Toml.takeAll, takeWhile_append_stops hp ht, dropWhile_append_stops hp ht]

theorem exactly {mark : List Char} (hmark : isMark mark = true) : Decided (exactly mark) where
  shrinks := .exactly mark
  append cs t ht := by
    unfold Toml.exactly
    rw [isPrefixOf_append_stops (isStop_of_isMark hmark) ht]
    split
    · next h => simp [List.drop_append_of_le_length (List.isPrefixOf_iff_prefix.mp h).length_le]
    · rfl

theorem accept {mark : List Char} (hmark : isMark mark = true) : Decided (accept mark) where
  shrinks := .accept mark
  append cs t ht := by
    unfold Toml.accept
    rw [isPrefixOf_append_stops (isStop_of_isMark hmark) ht]
    split
    · next h => simp [List.drop_append_of_le_length (List.isPrefixOf_iff_prefix.mp h).length_le]
    · rfl

/-- A reader that takes no stop. -/
theorem next_bind {f : Char → Reader β} (h : ∀ c, Decided (f c))
    (hstop : ∀ c, isStop c = true → f c = Alternative.failure) : Decided (next >>= f) where
  shrinks := Shrinks.next.bind fun c => (h c).shrinks
  append cs t ht := by
    cases cs with
    | cons c cs => exact (h c).append cs t ht
    | nil =>
      cases t with
      | nil => rfl
      | cons c t =>
        show f c t = none
        rw [hstop c (by simpa using ht)]
        rfl

/-- A reader that goes on in front of a stop as it does at the end. -/
theorem peek_bind {f : Option Char → Reader β} (h : ∀ o, Decided (f o))
    (hstop : ∀ c, isStop c = true → f (some c) = f none) : Decided (peek >>= f) where
  shrinks := Shrinks.peek.bind fun o => (h o).shrinks
  append cs t ht := by
    cases cs with
    | cons c cs => exact (h (some c)).append (c :: cs) t ht
    | nil =>
      cases t with
      | nil => exact (h none).append [] [] ht
      | cons c t =>
        show f (some c) (c :: t) = (f none []).map _
        rw [hstop c (by simpa using ht)]
        exact (h none).append [] (c :: t) ht

end Decided

/-! ## Framing -/

/-- What the first reader takes in front of one stop, the second takes in front of every other, as far
as the texts are shorter than `n` and at least `k` characters are left in front of the stop. -/
structure FramedTo (n k : Nat) (r r' : Reader α) : Prop where
  shrinks : Shrinks r
  frame : ∀ ⦃cs t t' a l⦄, cs.length < n → k ≤ l.length → Stops t → Stops t' →
    r (cs ++ t) = some (a, l ++ t) → r' (cs ++ t') = some (a, l ++ t')

/-- What a reader takes in front of one stop it takes in front of every other. -/
def Framed (r : Reader α) : Prop := ∀ n, FramedTo n 0 r r

theorem Decided.framedTo (h : Decided r) (n k : Nat) : FramedTo n k r r where
  shrinks := h.shrinks
  frame cs t t' a l _ _ ht ht' hr := by
    rw [h.append cs t ht] at hr
    obtain ⟨⟨b, m⟩, hm, hx⟩ := Option.map_eq_some_iff.mp hr
    obtain ⟨rfl, hl⟩ := Prod.mk.inj hx
    obtain rfl : m = l := List.append_cancel_right hl
    rw [h.append cs t' ht', hm]
    rfl

theorem Decided.framed (h : Decided r) : Framed r := fun n => h.framedTo n 0

/-- What stands between two texts that end in the same. -/
theorem exists_eq_append_of_suffix {cs t l m : List Char} (h : m <:+ cs ++ t) (h' : l ++ t <:+ m) :
    ∃ l', m = l' ++ t ∧ l'.length ≤ cs.length ∧ l.length ≤ l'.length := by
  obtain ⟨u, rfl⟩ := h'
  have hlen := h.length_le
  simp only [List.length_append] at hlen
  refine ⟨u ++ l, (List.append_assoc u l t).symm, ?_, ?_⟩
  · simp only [List.length_append]
    omega
  · simp

namespace FramedTo

variable {n k : Nat}

/-- No text is that short. -/
theorem zero (h : Shrinks r) : FramedTo 0 k r r' := ⟨h, nofun⟩

theorem mono {n' k' : Nat} (h : FramedTo n k r r') (hn : n' ≤ n) (hk : k ≤ k') :
    FramedTo n' k' r r' where
  shrinks := h.shrinks
  frame _ _ _ _ _ hcs hl := h.frame (Nat.lt_of_lt_of_le hcs hn) (Nat.le_trans hk hl)

theorem failure : FramedTo n k (failure : Reader α) r' := ⟨.failure, nofun⟩

/-- The first reader may hang on a few characters in front of the stop, if the second one takes as many
of them or leaves too little. -/
theorem bind_of_short {k' : Nat} (h : FramedTo n k' r r') (h' : ∀ a, FramedTo n k (f a) (f' a))
    (hshort : ∀ ⦃a b m l t⦄, Stops t → m.length < k' → k ≤ l.length →
      f a (m ++ t) ≠ some (b, l ++ t)) : FramedTo n k (r >>= f) (r' >>= f') where
  shrinks := h.shrinks.bind fun a => (h' a).shrinks
  frame cs t t' b l hcs hl ht ht' hb := by
    obtain ⟨a, m, hm, hb⟩ := bind_eq_some_iff.mp hb
    obtain ⟨m', rfl, hlen, -⟩ := exists_eq_append_of_suffix (h.shrinks hm) ((h' a).shrinks hb)
    have hk : k' ≤ m'.length := Nat.le_of_not_lt fun hlt => hshort ht hlt hl hb
    exact bind_eq_some_iff.mpr ⟨a, m' ++ t', h.frame hcs hk ht ht' hm,
      (h' a).frame (Nat.lt_of_le_of_lt hlen hcs) hl ht ht' hb⟩

theorem bind (h : FramedTo n k r r') (h' : ∀ a, FramedTo n k (f a) (f' a)) :
    FramedTo n k (r >>= f) (r' >>= f') := by
  refine h.bind_of_short h' fun a b m l t _ hm hl hb => ?_
  have hlen := ((h' a).shrinks hb).length_le
  simp only [List.length_append] at hlen
  omega

theorem map (g : α → β) (h : FramedTo n k r r') : FramedTo n k (g <$> r) (g <$> r') :=
  h.bind fun a => (Decided.pure (g a)).framedTo n k

/-- What has to follow stands in front of every stop. -/
theorem exactly (mark : List Char) : FramedTo n k (exactly mark) (exactly mark) where
  shrinks := .exactly mark
  frame cs t t' u l _ _ _ _ h := by
    have hcs : cs ++ t = (mark ++ l) ++ t := by
      rw [List.append_assoc]
      exact exactly_eq_some_iff.mp h
    obtain rfl := List.append_cancel_right hcs
    exact exactly_eq_some_iff.mpr (List.append_assoc mark l t')

/-- The second reader takes over in front of every stop or in front of none. -/
theorem oneOf {s s' : Reader α} (h : FramedTo n k r r') (h' : FramedTo n k s s')
    (hnone : ∀ ⦃cs t t'⦄, k ≤ cs.length → Stops t → Stops t' → r (cs ++ t) = none →
      r' (cs ++ t') = none) :
    FramedTo n k (oneOf r s) (oneOf r' s') where
  shrinks := h.shrinks.oneOf h'.shrinks
  frame cs t t' a l hcs hl ht ht' hr := by
    unfold Toml.oneOf at hr ⊢
    cases hfirst : r (cs ++ t) with
    | some x =>
      obtain rfl : x = (a, l ++ t) := by simpa [hfirst] using hr
      rw [h.frame hcs hl ht ht' hfirst]
      rfl
    | none =>
      have hsecond : s (cs ++ t) = some (a, l ++ t) := by simpa [hfirst] using hr
      have hlen := (h'.shrinks hsecond).length_le
      simp only [List.length_append] at hlen
      rw [hnone (by omega) ht ht' hfirst]
      exact h'.frame hcs hl ht ht' hsecond

theorem next : FramedTo n k next next where
  shrinks := .next
  frame cs t t' c l _ _ _ _ h := by
    have hcs : cs ++ t = (c :: l) ++ t := next_eq_some_iff.mp h
    obtain rfl := List.append_cancel_right hcs
    rfl

/-- Behind a reader that takes something less is in front of the next one. -/
theorem bind_of_eats (h : FramedTo n k r r') (heats : Eats 1 r)
    (h' : ∀ a, FramedTo (n - 1) k (f a) (f' a)) : FramedTo n k (r >>= f) (r' >>= f') where
  shrinks := h.shrinks.bind fun a => (h' a).shrinks
  frame cs t t' b l hcs hl ht ht' hb := by
    obtain ⟨a, m, hm, hb⟩ := bind_eq_some_iff.mp hb
    obtain ⟨m', rfl, -, hle⟩ := exists_eq_append_of_suffix (h.shrinks hm) ((h' a).shrinks hb)
    have hlen := heats hm
    simp only [List.length_append] at hlen
    exact bind_eq_some_iff.mpr ⟨a, m' ++ t', h.frame hcs (Nat.le_trans hl hle) ht ht' hm,
      (h' a).frame (by omega) hl ht ht' hb⟩

/-- Behind a mark less is in front of the next reader, too. -/
theorem accept_bind {mark : List Char} (hmark : isMark mark = true) {f f' : Bool → Reader β}
    (htrue : FramedTo (n - 1) k (f true) (f' true))
    (hfalse : FramedTo n k (f false) (f' false)) :
    FramedTo n k (accept mark >>= f) (accept mark >>= f') where
  shrinks := (Shrinks.accept mark).bind fun b => by
    cases b
    · exact hfalse.shrinks
    · exact htrue.shrinks
  frame cs t t' b l hcs hl ht ht' hb := by
    have heq (t : List Char) (ht : Stops t) := (Decided.accept hmark).append cs t ht
    rw [bind_eq, heq t ht] at hb
    rw [bind_eq, heq t' ht']
    unfold accept at hb ⊢
    split_ifs at hb ⊢ with hpre
    · have hpos := List.length_pos_iff.mpr (ne_nil_of_isMark hmark)
      have hle := (List.isPrefixOf_iff_prefix.mp hpre).length_le
      exact htrue.frame (by simp only [List.length_drop]; omega) hl ht ht' hb
    · exact hfalse.frame hcs hl ht ht' hb

/-- A reader that goes on in front of one stop as it does in front of another. -/
theorem peek_bind {f f' : Option Char → Reader β}
    (hsome : ∀ c, FramedTo n k (f (some c)) (f' (some c)))
    (hstop : ∀ o o', (∀ c ∈ o, isStop c = true) → (∀ c ∈ o', isStop c = true) →
      FramedTo n k (f o) (f' o')) : FramedTo n k (peek >>= f) (peek >>= f') where
  shrinks := Shrinks.peek.bind fun o => by
    cases o with
    | none => exact (hstop none none nofun nofun).shrinks
    | some c => exact (hsome c).shrinks
  frame cs t t' b l hcs hl ht ht' hb := by
    cases cs with
    | cons c cs => exact (hsome c).frame hcs hl ht ht' hb
    | nil => exact (hstop t.head? t'.head? ht ht').frame hcs hl ht ht' hb

/-- A reader that takes something, or leaves something of its own, does not look at the stop. -/
theorem peek_bind_of_short {f f' : Option Char → Reader β} (hnone : Shrinks (f none))
    (hsome : ∀ c, FramedTo n k (f (some c)) (f' (some c)))
    (hshort : ∀ ⦃t b l⦄, Stops t → k ≤ l.length → f t.head? t ≠ some (b, l ++ t)) :
    FramedTo n k (peek >>= f) (peek >>= f') where
  shrinks := Shrinks.peek.bind fun o => by
    cases o with
    | none => exact hnone
    | some c => exact (hsome c).shrinks
  frame cs t t' b l hcs hl ht ht' hb := by
    cases cs with
    | cons c cs => exact (hsome c).frame hcs hl ht ht' hb
    | nil => exact absurd hb (hshort ht hl)

/-- Neither does a reader that leaves something of its own in any case. -/
theorem peek_bind_of_pos {f f' : Option Char → Reader β} (hk : 0 < k) (hnone : Shrinks (f none))
    (hsome : ∀ c, FramedTo n k (f (some c)) (f' (some c))) :
    FramedTo n k (peek >>= f) (peek >>= f') := by
  refine .peek_bind_of_short hnone hsome fun t b l _ hl hb => ?_
  have hf : Shrinks (f t.head?) := by
    cases t.head? with
    | none => exact hnone
    | some c => exact (hsome c).shrinks
  have hlen := (hf hb).length_le
  simp only [List.length_append] at hlen
  omega

/-- Readers whose fuel hangs on the text. -/
theorem get_bind {r r' : List Char → Reader α}
    (h : ∀ cs t t', FramedTo (cs.length + 1) k (r (cs ++ t)) (r' (cs ++ t'))) :
    FramedTo n k (get >>= r) (get >>= r') where
  shrinks := Shrinks.get.bind fun cs => by simpa using (h cs [] []).shrinks
  frame cs t t' _ _ _ hl ht ht' hb := (h cs t t').frame (Nat.lt_succ_self _) hl ht ht' hb

/-- A loop with fuel that takes something on each round, if the fuel suffices for what is in front of
it: a round is framed as soon as the loop behind it is. -/
theorem of_fuel {r : Nat → Reader α} (hr : ∀ fuel, Shrinks (r fuel))
    (hround : ∀ {n fuel fuel'}, FramedTo (n - 1) k (r fuel) (r fuel') →
      FramedTo n k (r (fuel + 1)) (r (fuel' + 1)))
    {fuel fuel' : Nat} (h : n ≤ fuel) (h' : n ≤ fuel') : FramedTo n k (r fuel) (r fuel') := by
  induction fuel generalizing n fuel' with
  | zero =>
    obtain rfl := Nat.le_zero.mp h
    exact .zero (hr 0)
  | succ fuel ih =>
    cases fuel' with
    | zero =>
      obtain rfl := Nat.le_zero.mp h'
      exact .zero (hr _)
    | succ fuel' => exact hround (ih (by omega) (by omega))

end FramedTo

namespace Framed

theorem bind (h : Framed r) (h' : ∀ a, Framed (f a)) : Framed (r >>= f) :=
  fun n => (h n).bind fun a => h' a n

theorem pure (a : α) : Framed (Pure.pure a) := (Decided.pure a).framed

theorem map (g : α → β) (h : Framed r) : Framed (g <$> r) := fun n => (h n).map g

theorem exactly (mark : List Char) : Framed (exactly mark) := fun _ => .exactly mark

end Framed

end StarSurvey.Toml
