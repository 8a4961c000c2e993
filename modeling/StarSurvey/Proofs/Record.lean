import StarSurvey.Proofs.Json.Ensures
import StarSurvey.Proofs.Json.Refusal
import StarSurvey.Record

/-!
# Records that are decoded, and written again

- **Decoded records** (`Record.wellFormed_of_ofBytes`): whatever body a record is decoded from, its
  coordinates are finite and its class is what its symbol is reported as.
- **Written records** (`Record.readsText`): a well-formed record is read back from its JSON, all but
  the coordinates as they were (`Record.SameReport`).
- **Refused records** (`Record.refusesText`): a record with a coordinate that is not finite is refused.
-/

namespace StarSurvey

open Json

/-! ## Decoded records -/

/-- The three coordinates. -/
def Position.coordinates (p : Position) : List Float := [p.x, p.y, p.z]

/-- Not a class that its own symbol would not be reported as. -/
def StarClass.IsReported (c : StarClass) : Prop := StarClass.ofSymbol c.symbol = c

theorem StarClass.isReported_ofSymbol (s : String) : (ofSymbol s).IsReported :=
  congrArg ofSymbol (symbol_ofSymbol s)

/-- What every decoded record is like. -/
structure Record.WellFormed (r : Record) : Prop where
  finite : ∀ c ∈ r.position.coordinates, c.isFinite = true
  reported : r.starType.starClass.IsReported

theorem StarType.ensures_read :
    Ensures StarType.shape.read fun t => t.starClass.IsReported := by
  refine Shape.ensures_read (I := fun p => ∀ c ∈ p.starClass, c.IsReported) ?_ ?_ ?_
  · exact fun _ h => nomatch h
  · intro f hf p hp
    simp only [StarType.shape, List.mem_cons, List.not_mem_nil, or_false] at hf
    rcases hf with rfl | rfl
    · refine .map (.map fun bs s rest _ c hc => ?_)
      cases hc
      exact StarClass.isReported_ofSymbol s
    · exact .map fun _ _ _ _ => hp
  · intro p t hp ht
    simp only [StarType.shape, Option.bind_eq_bind, Option.bind_eq_some_iff] at ht
    obtain ⟨c, hc, d, hd, ht⟩ := ht
    cases ht
    exact hp c hc

theorem Position.ensures_read :
    Ensures Position.shape.read fun p => ∀ c ∈ p.coordinates, c.isFinite = true := by
  refine Shape.ensures_read (I := fun p => (∀ c ∈ p.x, c.isFinite = true) ∧
    (∀ c ∈ p.y, c.isFinite = true) ∧ ∀ c ∈ p.z, c.isFinite = true) ?_ ?_ ?_
  · exact ⟨(fun _ h => nomatch h), (fun _ h => nomatch h), fun _ h => nomatch h⟩
  · intro f hf p hp
    simp only [Position.shape, List.mem_cons, List.not_mem_nil, or_false] at hf
    obtain ⟨hx, hy, hz⟩ := hp
    have hsome : ∀ c : Float, c.isFinite = true → ∀ d ∈ some c, d.isFinite = true := by
      intro c hc d hd
      cases hd
      exact hc
    rcases hf with rfl | rfl | rfl
    · exact .map fun bs c rest hc => ⟨hsome c (ensures_readFloat bs c rest hc), hy, hz⟩
    · exact .map fun bs c rest hc => ⟨hx, hsome c (ensures_readFloat bs c rest hc), hz⟩
    · exact .map fun bs c rest hc => ⟨hx, hy, hsome c (ensures_readFloat bs c rest hc)⟩
  · intro p q hp hq
    simp only [Position.shape, Option.bind_eq_bind, Option.bind_eq_some_iff] at hq
    obtain ⟨x, hx, y, hy, z, hz, hq⟩ := hq
    cases hq
    intro c hc
    simp only [coordinates, List.mem_cons, List.not_mem_nil, or_false] at hc
    rcases hc with rfl | rfl | rfl
    · exact hp.1 c hx
    · exact hp.2.1 c hy
    · exact hp.2.2 c hz

theorem Record.ensures_read : Ensures Record.shape.read Record.WellFormed := by
  refine Shape.ensures_read (I := fun p => (∀ t ∈ p.starType, t.starClass.IsReported) ∧
    ∀ q ∈ p.position, ∀ c ∈ q.coordinates, c.isFinite = true) ?_ ?_ ?_
  · exact ⟨(fun _ h => nomatch h), fun _ h => nomatch h⟩
  · intro f hf p hp
    simp only [Record.shape, List.mem_cons, List.not_mem_nil, or_false] at hf
    rcases hf with rfl | rfl | rfl | rfl
    · exact .map fun _ _ _ _ => hp
    · refine .map fun bs t rest ht => ⟨fun u hu => ?_, hp.2⟩
      cases hu
      exact StarType.ensures_read bs t rest ht
    · refine .map fun bs q rest hq => ⟨hp.1, fun u hu => ?_⟩
      cases hu
      exact Position.ensures_read bs q rest hq
    · exact .map fun _ _ _ _ => hp
  · intro p r hp hr
    simp only [Record.shape, Option.bind_eq_bind, Option.bind_eq_some_iff] at hr
    obtain ⟨n, hn, t, ht, q, hq, i, hi, hr⟩ := hr
    cases hr
    exact ⟨hp.2 q hq, hp.1 t ht⟩

/-- Whatever body a record is decoded from, it is well-formed. -/
theorem Record.wellFormed_of_ofBytes {body : List UInt8} {r : Record}
    (h : Record.ofBytes body = .ok r) : r.WellFormed :=
  of_decode Record.ensures_read h

/-! ## Written records -/

/-- Two records that differ in their coordinates at most. -/
structure Record.SameReport (r s : Record) : Prop where
  name : r.name = s.name
  starClass : r.starType.starClass = s.starType.starClass
  description : r.starType.description = s.starType.description
  lastSeen : r.lastSeen = s.lastSeen

variable (l : Spacing)

theorem StarType.readsText {t : StarType} (h : t.starClass.IsReported) (depth : ℕ) :
    ReadsText StarType.shape.read (t.toValue.charsIn l depth) t := by
  have hclass := (readsText_readText t.starClass.symbol).map StarClass.ofSymbol
  rw [h] at hclass
  have hdescription := readsText_readText t.description
  exact Shape.readsText_read (.cons rfl rfl (hclass.map _)
    (.cons rfl rfl (hdescription.map _) (.nil _))) rfl

/-- A position with each of its coordinates changed. -/
def Position.map (f : Float → Float) (p : Position) : Position := ⟨f p.x, f p.y, f p.z⟩

/-- A record with each of its coordinates changed. -/
def Record.mapCoordinates (f : Float → Float) (r : Record) : Record :=
  { r with position := r.position.map f }

theorem Record.sameReport_mapCoordinates (f : Float → Float) (r : Record) :
    r.SameReport (r.mapCoordinates f) := ⟨rfl, rfl, rfl, rfl⟩

theorem Position.readsText {p : Position} (h : ∀ c ∈ p.coordinates, c.isFinite = true)
    (depth : ℕ) : ReadsText Position.shape.read (p.toValue.charsIn l depth) (p.map reread) := by
  have hcoordinates := fun c (hc : c ∈ p.coordinates) => readsText_readFloat (h c hc)
  simp only [coordinates, List.mem_cons, List.not_mem_nil, or_false] at hcoordinates
  have hx := hcoordinates p.x (.inl rfl)
  have hy := hcoordinates p.y (.inr (.inl rfl))
  have hz := hcoordinates p.z (.inr (.inr rfl))
  exact Shape.readsText_read (.cons rfl rfl (hx.map _) (.cons rfl rfl (hy.map _)
    (.cons rfl rfl (hz.map _) (.nil _)))) rfl

/-- A well-formed record is read back, but that its coordinates are read again. -/
theorem Record.readsText {r : Record} (h : r.WellFormed) (depth : ℕ) :
    ReadsText Record.shape.read (r.toValue.charsIn l depth) (r.mapCoordinates reread) := by
  have hname := readsText_readText r.name
  have hstar := StarType.readsText l h.reported (depth + 1)
  have hposition := Position.readsText l h.finite (depth + 1)
  have hseen := readsText_readInstant r.lastSeen
  exact Shape.readsText_read (.cons rfl rfl (hname.map _) (.cons rfl rfl (hstar.map _)
    (.cons rfl rfl (hposition.map _) (.cons rfl rfl (hseen.map _) (.nil _))))) rfl

/-! ## Refused records -/

/-- What is said of a coordinate that is not finite. -/
def Position.nullCause : Cause := .misfit (.wrongType .nothing "f64")

theorem Position.refusesText {p : Position} (h : ∃ c ∈ p.coordinates, c.isFinite = false)
    (depth : ℕ) : RefusesText Position.shape.read (p.toValue.charsIn l depth) nullCause := by
  refine Shape.refusesText_read ?_
  cases hx : p.x.isFinite with
  | false => exact .here rfl rfl ((refusesText_readFloat hx).map _)
  | true =>
    refine .there rfl rfl ((readsText_readFloat hx).map _) ?_
    cases hy : p.y.isFinite with
    | false => exact .here rfl rfl ((refusesText_readFloat hy).map _)
    | true =>
      refine .there rfl rfl ((readsText_readFloat hy).map _) ?_
      have hz : p.z.isFinite = false := by simpa [coordinates, hx, hy] using h
      exact .here rfl rfl ((refusesText_readFloat hz).map _)

/-- A record with a coordinate that is not finite is refused for the first of these. -/
theorem Record.refusesText {r : Record} (hclass : r.starType.starClass.IsReported)
    (h : ∃ c ∈ r.position.coordinates, c.isFinite = false) (depth : ℕ) :
    RefusesText Record.shape.read (r.toValue.charsIn l depth) Position.nullCause := by
  have hname := readsText_readText r.name
  have hstar := StarType.readsText l hclass (depth + 1)
  have hposition := Position.refusesText l h (depth + 1)
  exact Shape.refusesText_read (.there rfl rfl (hname.map _) (.there rfl rfl (hstar.map _)
    (.here rfl rfl (hposition.map _))))

end StarSurvey
