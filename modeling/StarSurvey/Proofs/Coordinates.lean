import StarSurvey.Proofs.Json.Reread
import StarSurvey.Proofs.Snapshot

/-!
# Which coordinates come back from the snapshot file

The file holds the fewest digits that identify each coordinate, but its reader rounds twice, so not
every coordinate comes back (`ofBytes_fileBytes_ne_self_of_sixteen_digits`).

- **Snapshots** (`mapCoordinates_eq_self_iff`): a snapshot comes back if and only if all its
  coordinates do.
- **Surveys** (`ofBytes_fileBytes_eq_self_iff`): what comes back of a survey, and which coordinates
  come back for certain.
-/

namespace StarSurvey

open Json Decimal

theorem Position.map_eq_self_iff {f : Float → Float} {p : Position} :
    p.map f = p ↔ ∀ c ∈ p.coordinates, f c = c := by
  obtain ⟨x, y, z⟩ := p
  simp [map, coordinates]

theorem Record.mapCoordinates_eq_self_iff {f : Float → Float} {r : Record} :
    r.mapCoordinates f = r ↔ ∀ c ∈ r.position.coordinates, f c = c := by
  obtain ⟨name, starType, position, lastSeen⟩ := r
  simp [mapCoordinates, Position.map_eq_self_iff]

namespace Snapshot

theorem mapCoordinates_eq_self_iff {f : Float → Float} {s : Snapshot} :
    s.mapCoordinates f = s ↔ ∀ r ∈ s.systems, ∀ c ∈ r.position.coordinates, f c = c := by
  obtain ⟨systems, timestamp, nodeCount⟩ := s
  have hmap : systems.map (Record.mapCoordinates f) = systems ↔
      ∀ r ∈ systems, r.mapCoordinates f = r := by
    simpa using List.map_inj_left (l := systems) (f := Record.mapCoordinates f) (g := id)
  simp [mapCoordinates, hmap, Record.mapCoordinates_eq_self_iff]

/-- The snapshot of records that were decoded from whatever bodies is read from its file as it is,
but that each coordinate has become the one that is read from its text. So it comes back if and only
if all its coordinates do, and a coordinate does if its digits are written exactly. A list in memory
has fewer than `2^64` elements. -/
theorem ofBytes_fileBytes_eq_self_iff {records : List Record} (hne : records ≠ [])
    (hlength : records.length < UInt64.size)
    (hdecoded : ∀ r ∈ records, ∃ body, Record.ofBytes body = .ok r) :
    ∃ s, ofRecords? records = some s ∧ ofBytes s.fileBytes = .ok (s.mapCoordinates reread) ∧
      (ofBytes s.fileBytes = .ok s ↔
        ∀ r ∈ records, ∀ c ∈ r.position.coordinates, reread c = c) ∧
      ∀ r ∈ records, ∀ c ∈ r.position.coordinates,
        IsWrittenExactly (.ofFloat c) → reread c = c := by
  have hwell : ∀ r ∈ records, r.WellFormed := by
    intro r hr
    obtain ⟨body, hbody⟩ := hdecoded r hr
    exact Record.wellFormed_of_ofBytes hbody
  obtain ⟨r, rs, rfl⟩ := List.exists_cons_of_ne_nil hne
  have hread : ofBytes (fileBytes ⟨r :: rs, r.lastSeen.format timestampPattern, (r :: rs).length⟩) = _ :=
    ofBytes_fileBytes hwell hlength
  refine ⟨_, rfl, hread, ?_, fun q hq c hc => reread_of_writtenExactly ((hwell q hq).finite c hc)⟩
  rw [hread, Except.ok.injEq, mapCoordinates_eq_self_iff]

/-- Two systems whose coordinates are all written exactly. -/
theorem ofBytes_fileBytes_eq_self_of_two_bodies :
    let body₁ := Text.bytes
      "[\"Sol\",[\"G\",\"\"],[0.1,-12.5,900719925474099],\"2024-03-01T12:30:45Z\"]"
    let body₂ := Text.bytes
      "[\"Vega\",[\"A\",\"\"],[-0.0,1e22,123456789e-22],\"2024-03-01T12:30:45Z\"]"
    ∃ r₁ r₂ s, Record.ofBytes body₁ = .ok r₁ ∧ Record.ofBytes body₂ = .ok r₂ ∧
      ofRecords? [r₁, r₂] = some s ∧ ofBytes s.fileBytes = .ok s := by
  intro body₁ body₂
  have hexact : ∀ body ∈ [body₁, body₂], (Record.ofBytes body).toOption.any (fun r =>
      r.position.coordinates.all fun c => IsWrittenExactly (.ofFloat c)) = true := by
    decide +kernel
  have hbody : ∀ body ∈ [body₁, body₂], ∃ r, Record.ofBytes body = .ok r ∧
      ∀ c ∈ r.position.coordinates, IsWrittenExactly (.ofFloat c) := by
    intro body hmem
    have := hexact body hmem
    cases h : Record.ofBytes body with
    | error e => rw [h] at this; cases this
    | ok r =>
      rw [h] at this
      exact ⟨r, rfl, by simpa [Except.toOption] using this⟩
  obtain ⟨r₁, h₁, hc₁⟩ := hbody body₁ List.mem_cons_self
  obtain ⟨r₂, h₂, hc₂⟩ := hbody body₂ (List.mem_cons_of_mem _ List.mem_cons_self)
  have hdecoded : ∀ r ∈ [r₁, r₂], ∃ body, Record.ofBytes body = .ok r := by
    intro r hr
    simp only [List.mem_cons, List.not_mem_nil, or_false] at hr
    rcases hr with rfl | rfl
    · exact ⟨body₁, h₁⟩
    · exact ⟨body₂, h₂⟩
  obtain ⟨s, hs, -, hiff, hback⟩ := ofBytes_fileBytes_eq_self_iff (List.cons_ne_nil r₁ [r₂])
    (show 2 < UInt64.size by decide) hdecoded
  refine ⟨r₁, r₂, s, h₁, h₂, hs, hiff.mpr fun r hr c hc => hback r hr c hc ?_⟩
  simp only [List.mem_cons, List.not_mem_nil, or_false] at hr
  rcases hr with rfl | rfl
  · exact hc₁ c hc
  · exact hc₂ c hc

/-- A coordinate of sixteen digits does not come back: with the zero behind its point it has one
digit too many. -/
theorem ofBytes_fileBytes_ne_self_of_sixteen_digits :
    let body := Text.bytes
      "[\"Sol\",[\"G\",\"\"],[7300000000000020,0,0],\"2024-03-01T12:30:45Z\"]"
    ∃ r s t, Record.ofBytes body = .ok r ∧ ofRecords? [r] = some s ∧
      ofBytes s.fileBytes = .ok t ∧ t ≠ s ∧
      s.systems.map (·.position.x) = [7300000000000020] ∧
      t.systems.map (·.position.x) = [7300000000000019] := by
  intro body
  have hx : (Record.ofBytes body).toOption.map (·.position.x) = some 7300000000000020 := by
    decide +kernel
  cases h : Record.ofBytes body with
  | error e => rw [h] at hx; cases hx
  | ok r =>
    rw [h] at hx
    have hx : r.position.x = 7300000000000020 := Option.some.inj hx
    have hreread : reread 7300000000000020 = 7300000000000019 := by decide +kernel
    have hread : ofBytes (fileBytes ⟨[r], r.lastSeen.format timestampPattern, 1⟩) = _ :=
      ofBytes_fileBytes (by simpa using Record.wellFormed_of_ofBytes h)
        (show 1 < UInt64.size by decide)
    have hbefore : [r].map (·.position.x) = [7300000000000020] := by
      rw [List.map_singleton, hx]
    have hafter : [r.mapCoordinates reread].map (·.position.x) = [7300000000000019] := by
      show [reread r.position.x] = _
      rw [hx, hreread]
    refine ⟨r, _, _, rfl, rfl, hread, fun heq => ?_, hbefore, hafter⟩
    have hsystems : [r.mapCoordinates reread] = [r] := congrArg Snapshot.systems heq
    rw [hsystems, hbefore] at hafter
    exact absurd hafter (by decide +kernel)

end Snapshot

end StarSurvey
