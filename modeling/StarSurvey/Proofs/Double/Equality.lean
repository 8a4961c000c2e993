import StarSurvey.Proofs.Double.Packing

/-!
# Doubles that compare equal

Two doubles compare equal if they are the same or both are zero. The signs of the zeros differ then,
and a difference may keep that, but its square does not (`square_sub_congr`).
-/

namespace StarSurvey.Double

open Float.Model (Format UnpackedFloat)
open Float.Model.UnpackedFloat

/-- The same number: the same double, which a NaN is only of itself, or one that compares equal. -/
def SameNumber (a b : Float) : Prop := a = b ∨ (a == b) = true

/-- The same but for the sign of a zero. -/
inductive UpToSignOfZero : UnpackedFloat → UnpackedFloat → Prop where
  | refl (u : UnpackedFloat) : UpToSignOfZero u u
  | zeros (s t : Sign) : UpToSignOfZero (.zero s) (.zero t)

namespace UpToSignOfZero

/-- What compares equal is the same but for the sign of a zero. -/
theorem of_compare {u v : UnpackedFloat} (h : u.compare v = some .eq) : UpToSignOfZero u v := by
  cases u with
  | notANumber => cases h
  | infinity s =>
    cases v with
    | infinity t =>
      cases s <;> cases t <;> first | exact .refl _ | cases h
    | notANumber => cases s <;> cases h
    | zero t => cases s <;> cases h
    | finite t m e hm => cases s <;> cases h
  | zero s =>
    cases v with
    | zero t => exact .zeros s t
    | notANumber => cases h
    | infinity t => cases t <;> cases h
    | finite t m e hm => cases t <;> cases h
  | finite s m e hm =>
    cases v with
    | notANumber => cases s <;> cases h
    | infinity t => cases s <;> cases t <;> cases h
    | zero t => cases s <;> cases h
    | finite t m' e' hm' =>
      have hparts : (compare e e').then (compare m m') = .eq → e = e' ∧ m = m' := by
        intro hthen
        rw [Ordering.then_eq_eq] at hthen
        exact ⟨Int.compare_eq_eq.mp hthen.1, Nat.compare_eq_eq.mp hthen.2⟩
      cases s <;> cases t
      · obtain ⟨rfl, rfl⟩ := hparts (Ordering.swap_inj.mp (Option.some.inj h))
        exact .refl _
      · cases h
      · cases h
      · obtain ⟨rfl, rfl⟩ := hparts (Option.some.inj h)
        exact .refl _

theorem of_sameNumber {a b : Float} (h : SameNumber a b) :
    UpToSignOfZero a.toModel.unpack b.toModel.unpack := by
  rcases h with rfl | h
  · exact .refl _
  · have hbeq : (a.toModel.unpack.compare b.toModel.unpack == some .eq) = true := h
    exact of_compare (by simpa using hbeq)

variable {u u' v v' : UnpackedFloat} {spec : Format}

/-- The difference of zeros is a zero. -/
theorem exists_sub_zero (spec : Format) (s t : Sign) :
    ∃ r, UnpackedFloat.sub spec (.zero s) (.zero t) = .zero r := by
  cases s <;> cases t <;> exact ⟨_, rfl⟩

/-- The sign of a zero is left in a difference only if that is a zero. -/
theorem sub (h : UpToSignOfZero u u') (h' : UpToSignOfZero v v') :
    UpToSignOfZero (UnpackedFloat.sub spec u v) (UnpackedFloat.sub spec u' v') := by
  have hzeros : ∀ s t s' t', UpToSignOfZero (UnpackedFloat.sub spec (.zero s) (.zero t))
      (UnpackedFloat.sub spec (.zero s') (.zero t')) := by
    intro s t s' t'
    obtain ⟨r, hr⟩ := exists_sub_zero spec s t
    obtain ⟨r', hr'⟩ := exists_sub_zero spec s' t'
    rw [hr, hr']
    exact .zeros r r'
  cases h with
  | refl =>
    cases h' with
    | refl => exact .refl _
    | zeros t t' =>
      cases u with
      | zero s => exact hzeros s t s t'
      | notANumber | infinity s | finite s m e hm => exact .refl _
  | zeros s s' =>
    cases h' with
    | refl =>
      cases v with
      | zero t => exact hzeros s t s' t
      | notANumber | infinity t | finite t m e hm => exact .refl _
    | zeros t t' => exact hzeros s t s' t'

/-- In a square no sign is left. -/
theorem square (h : UpToSignOfZero u u') :
    UnpackedFloat.mul spec u u = UnpackedFloat.mul spec u' u' := by
  cases h with
  | refl => rfl
  | zeros s t => cases s <;> cases t <;> rfl

theorem pack (h : UpToSignOfZero u u') :
    UpToSignOfZero (Float.Model.pack u).unpack (Float.Model.pack u').unpack := by
  have hzero : ∀ s, (Float.Model.pack (.zero s)).unpack = .zero s := by
    intro s
    exact unpack_pack_ofPair s (p := (0, -1074)) ⟨by norm_num, le_refl _, .inr rfl⟩
  cases h with
  | refl => exact .refl _
  | zeros s t =>
    rw [hzero, hzero]
    exact .zeros s t

end UpToSignOfZero

/-- The square of a difference does not tell the sign of a zero. -/
theorem square_sub_congr {a a' b b' : Float} (ha : SameNumber a a') (hb : SameNumber b b') :
    (a - b) * (a - b) = (a' - b') * (a' - b') := by
  have hsub : UpToSignOfZero (UnpackedFloat.sub .binary64 a.toModel.unpack b.toModel.unpack)
      (UnpackedFloat.sub .binary64 a'.toModel.unpack b'.toModel.unpack) :=
    (UpToSignOfZero.of_sameNumber ha).sub (UpToSignOfZero.of_sameNumber hb)
  exact congrArg (fun u => Float.ofModel (Float.Model.pack u)) hsub.pack.square

end StarSurvey.Double
