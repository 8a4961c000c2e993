import Mathlib.Data.List.Forall2
import StarSurvey.Json.Shape
import StarSurvey.Proofs.Json.Reader

/-!
# Shapes that read the image of what other shapes read

Of two shapes with the same keys the one reads the image of what the other reads, with the same
failures, if this is so of each field.

- **Fields** (`Field.Image`): the image is taken of the parts, before a field is read or after it.
- **Objects** (`Shape.Image.read`): with the parts the whole is an image, be it read from an object or
  from a list.
- **Documents** (`decode_map`).
-/

namespace StarSurvey.Json

variable {α β σ τ : Type}

/-! ## Failures

A failure gives no value, so it is its own image. -/

theorem map_misfit (g : α → β) (expected : String) :
    g <$> (misfit expected : Reader α) = misfit expected := by
  unfold misfit
  rw [map_bind]
  refine bind_congr fun b => ?_
  cases b with
  | none => rfl
  | some b =>
    dsimp only
    -- behind whatever is passed there is a failure
    split_ifs <;> (try simp only [map_bind]) <;> rfl

/-! ## Fields -/

/-- A field reads the image of what another field of this name reads. -/
structure Field.Image (f : σ → τ) (F : Field σ) (G : Field τ) : Prop where
  name : G.name = F.name
  isSet : ∀ p, G.isSet (f p) = F.isSet p
  read : ∀ p, G.read (f p) = f <$> F.read p

theorem Field.Image.of {f : σ → τ} {g : α → β} {name : String} {get : σ → Option α}
    {get' : τ → Option β} {put : σ → α → σ} {put' : τ → β → τ} {r : Reader α} {r' : Reader β}
    (hget : ∀ p, get' (f p) = (get p).map g) (hput : ∀ p a, put' (f p) (g a) = f (put p a))
    (hread : r' = g <$> r) : Image f (.of name get put r) (.of name get' put' r') where
  name := rfl
  isSet p := by
    show (get' (f p)).isSome = (get p).isSome
    rw [hget, Option.isSome_map]
  read p := by
    show put' (f p) <$> r' = f <$> put p <$> r
    rw [hread, Functor.map_map, Functor.map_map]
    exact congrArg (· <$> r) (funext (hput p))

/-- Two fields that store what the same reader gives. -/
theorem Field.Image.of_same {f : σ → τ} {name : String} {get : σ → Option α} {get' : τ → Option α}
    {put : σ → α → σ} {put' : τ → α → τ} {r : Reader α} (hget : ∀ p, get' (f p) = get p)
    (hput : ∀ p a, put' (f p) a = f (put p a)) :
    Image f (.of name get put r) (.of name get' put' r) :=
  .of (fun p => (hget p).trans Option.map_id'.symm) hput (id_map r).symm

namespace Shape

variable {f : σ → τ} {F : List (Field σ)} {G : List (Field τ)}

theorem map_repeated (f : σ → τ) (name : String) :
    f <$> (repeated name : Reader σ) = repeated name := by
  unfold repeated
  simp only [map_bind]
  refine bind_congr fun _ => bind_congr fun b => ?_
  split
  · simp only [map_bind]
    rfl
  · rfl

/-- The same names are known. -/
theorem find?_image (h : List.Forall₂ (Field.Image f) F G) (key : String) :
    Option.Rel (Field.Image f) (F.find? fun e => e.name == key) (G.find? fun e => e.name == key) := by
  induction h with
  | nil => exact .none
  | @cons a b F G hab _ ih =>
    rw [List.find?_cons, List.find?_cons, hab.name]
    split
    · exact .some hab
    · exact ih

theorem readMembers_image (h : List.Forall₂ (Field.Image f) F G) (fuel : ℕ) (first : Bool) (p : σ) :
    readMembers G fuel first (f p) = f <$> readMembers F fuel first p := by
  induction fuel generalizing first p with
  | zero => rfl
  | succ fuel ih =>
    -- what follows a value that is read or skipped
    have hnext : readMembers G fuel false ∘ f = fun q => f <$> readMembers F fuel false q :=
      funext (ih false)
    rw [readMembers, readMembers, map_bind]
    refine bind_congr fun more => ?_
    cases more with
    | false => rfl
    | true =>
      simp only [if_true, map_bind]
      refine bind_congr fun key => ?_
      have hfind := find?_image h key
      generalize (F.find? fun e => e.name == key) = a at hfind ⊢
      generalize (G.find? fun e => e.name == key) = b at hfind ⊢
      cases hfind with
      | none =>
        simp only [map_bind]
        exact bind_congr fun _ => bind_congr fun _ => ih false p
      | @some a b hab =>
        dsimp only
        rw [hab.isSet, hab.name]
        split
        · exact (map_repeated f _).symm
        · simp only [map_bind, hab.read, bind_map_left, ih]

theorem readRow_image (h : List.Forall₂ (Field.Image f) F G) (expected : String) (taken : ℕ)
    (p : σ) : readRow expected G taken (f p) = f <$> readRow expected F taken p := by
  induction h generalizing taken p with
  | nil => rfl
  | @cons a b F G hab _ ih =>
    rw [readRow, readRow, map_bind]
    refine bind_congr fun more => ?_
    split
    · simp only [map_bind, hab.read, bind_map_left, ih]
    · simp only [map_bind]
      rfl

/-! ## Objects -/

/-- A shape reads the image of what another one reads: the fields do, and the whole of an image of
parts is the image of their whole. -/
structure Image (f : σ → τ) (g : α → β) (S : Shape σ α) (T : Shape τ β) : Prop where
  name : T.name = S.name
  fields : List.Forall₂ (Field.Image f) S.fields T.fields
  none : T.none = f S.none
  whole : ∀ p, T.whole (f p) = (S.whole p).map g

namespace Image

variable {g : α → β} {S : Shape σ α} {T : Shape τ β}

/-- The same field is missing first. -/
theorem missing_eq (h : List.Forall₂ (Field.Image f) F G) (p : σ) :
    (G.find? fun e => !e.isSet (f p)).elim "" Field.name =
      (F.find? fun e => !e.isSet p).elim "" Field.name := by
  induction h with
  | nil => rfl
  | @cons a b F G hab _ ih =>
    rw [List.find?_cons, List.find?_cons, hab.isSet]
    split
    · exact hab.name
    · exact ih

theorem finish (h : Image f g S T) (p : σ) : T.finish (f p) = g <$> S.finish p := by
  rw [Shape.finish, Shape.finish, h.whole, missing_eq h.fields]
  cases S.whole p <;> rfl

theorem title_eq (h : Image f g S T) : T.title = S.title := by
  rw [title, title, h.name]

theorem rowTitle_eq (h : Image f g S T) : T.rowTitle = S.rowTitle := by
  rw [rowTitle, rowTitle, h.title_eq, h.fields.length_eq]

theorem read (h : Image f g S T) : T.read = g <$> S.read := by
  rw [Shape.read, Shape.read, map_bind]
  refine bind_congr fun b => ?_
  rw [h.none, h.title_eq, h.rowTitle_eq]
  split
  · simp only [map_bind, readMembers_image h.fields, bind_map_left, h.finish]
  · split
    · simp only [map_bind, readRow_image h.fields, bind_map_left, h.finish]
    · exact (map_misfit g _).symm

end Image

end Shape

/-! ## Documents -/

theorem document_map (g : α → β) (r : Reader α) : document (g <$> r) = g <$> document r := by
  rw [document, document, bind_map_left, map_bind]
  refine bind_congr fun a => ?_
  simp only [map_bind]
  refine bind_congr fun _ => bind_congr fun b => ?_
  split <;> rfl

/-- A document is decoded as the image of what it is decoded as. -/
theorem decode_map (g : α → β) (r : Reader α) (text : List UInt8) :
    decode (g <$> r) text = (decode r text).map g := by
  have hmap : (g <$> document r) text = (document r text).map fun p => (g p.1, p.2) := rfl
  rw [decode_eq, decode_eq, document_map, hmap]
  cases document r text <;> rfl

end StarSurvey.Json
