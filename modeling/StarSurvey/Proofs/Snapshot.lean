import StarSurvey.Proofs.Record
import StarSurvey.SnapshotFile

/-!
# Snapshots that are read back

- **Files** (`Snapshot.exists_ofBytes_fileBytes`): the file of a snapshot of well-formed records is
  decoded as that snapshot, all but the coordinates as they were.
- **Surveys** (`Snapshot.ofBytes_fileBytes_of_decoded`): so is the file of a snapshot of whatever
  records were decoded, and none of their coordinates is written as `null`.
-/

namespace StarSurvey

open Json

/-- A finite coordinate is not written as `null`. -/
theorem Json.prettyChars_float_ne_null {x : Float} (hx : x.isFinite = true) (depth : ℕ) :
    (Value.float x).prettyChars depth ≠ Value.null.prettyChars depth := by
  obtain ⟨n, hn, -, hchars⟩ := exists_numeral_float hx
  obtain ⟨b, bs, htext, hb⟩ := hn.starts
  intro hnull
  have hstart : Text.encode "null".toList = b :: bs := by
    rw [← htext, ← hchars]
    exact congrArg Text.encode hnull.symm
  have hn : b = 0x6E := by
    have hhead := congrArg List.head? hstart
    exact (Option.some.inj hhead).symm
  rw [hn] at hb
  exact absurd hb (by decide)

namespace Snapshot

/-- A snapshot with each of its coordinates changed. -/
def mapCoordinates (f : Float → Float) (s : Snapshot) : Snapshot :=
  { s with systems := s.systems.map (Record.mapCoordinates f) }

/-- The file of a snapshot of well-formed records is decoded, and each coordinate is read again. -/
theorem ofBytes_fileBytes {s : Snapshot} (h : ∀ r ∈ s.systems, r.WellFormed)
    (hcount : s.nodeCount < UInt64.size) :
    ofBytes s.fileBytes = .ok (s.mapCoordinates reread) := by
  have hread : List.Forall₂ (fun v r => ReadsText Record.shape.read (v.charsIn .indented 2) r)
      (s.systems.map Record.toValue) (s.systems.map (Record.mapCoordinates reread)) := by
    rw [List.forall₂_map_left_iff, List.forall₂_map_right_iff, List.forall₂_same]
    exact fun r hr => Record.readsText .indented (h r hr) 2
  have hsystems := readsText_readList hread
  have htimestamp := readsText_readText s.timestamp
  have hnodes := readsText_readCount hcount
  exact decode_pretty (Shape.readsText_read (.cons rfl rfl (hsystems.map _)
    (.cons rfl rfl (htimestamp.map _) (.cons rfl rfl (hnodes.map _) (.nil _)))) rfl)

/-- All but the coordinates is as it was. -/
theorem exists_ofBytes_fileBytes {s : Snapshot} (h : ∀ r ∈ s.systems, r.WellFormed)
    (hcount : s.nodeCount < UInt64.size) :
    ∃ t, ofBytes s.fileBytes = .ok t ∧ t.nodeCount = s.nodeCount ∧ t.timestamp = s.timestamp ∧
      List.Forall₂ Record.SameReport s.systems t.systems := by
  refine ⟨_, ofBytes_fileBytes h hcount, rfl, rfl, ?_⟩
  rw [mapCoordinates, List.forall₂_map_right_iff, List.forall₂_same]
  exact fun r _ => r.sameReport_mapCoordinates reread

/-- The records of a survey, decoded from whatever bodies, come back from the snapshot file that
they are written to, in their order, and none of their coordinates is written as `null`. A list in
memory has fewer than `2^64` elements. -/
theorem ofBytes_fileBytes_of_decoded {records : List Record} (hne : records ≠ [])
    (hlength : records.length < UInt64.size)
    (hdecoded : ∀ r ∈ records, ∃ body, Record.ofBytes body = .ok r) :
    ∃ s t, ofRecords? records = some s ∧ ofBytes s.fileBytes = .ok t ∧
      (∀ r ∈ records, ∀ c ∈ r.position.coordinates, ∀ depth,
        (Value.float c).prettyChars depth ≠ Value.null.prettyChars depth) ∧
      t.nodeCount = s.nodeCount ∧ t.timestamp = s.timestamp ∧
      List.Forall₂ Record.SameReport records t.systems := by
  have hwell : ∀ r ∈ records, r.WellFormed := by
    intro r hr
    obtain ⟨body, hbody⟩ := hdecoded r hr
    exact Record.wellFormed_of_ofBytes hbody
  obtain ⟨r, rs, rfl⟩ := List.exists_cons_of_ne_nil hne
  obtain ⟨t, hread, hcount, htimestamp, hsystems⟩ := exists_ofBytes_fileBytes
    (s := ⟨r :: rs, r.lastSeen.format timestampPattern, (r :: rs).length⟩) hwell hlength
  refine ⟨_, t, rfl, hread, ?_, hcount, htimestamp, hsystems⟩
  intro q hq c hc depth
  exact Json.prettyChars_float_ne_null ((hwell q hq).finite c hc) depth

/-- Two systems with escapes of all kinds, one seen in a leap second, the other in a year of five
digits. -/
theorem ofBytes_fileBytes_of_two_bodies :
    let body₁ := Text.bytes ("[\"\\\"Sol\\\" \\\\ \\u0001\\ud83c\\udf0c\",[\"O\",\"hot\\n\"]," ++
      "[1.7976931348623157e308,-0.0,5e-324],\"2016-12-31T23:59:60.123456789Z\"]")
    let body₂ := Text.bytes ("[\"X\",[\"o \",\"\"],[18446744073709551616,0.1,-3]," ++
      "\"+12024-02-29t01:00:00.5+02:30\"]")
    ∃ r₁ r₂ s t, Record.ofBytes body₁ = .ok r₁ ∧ Record.ofBytes body₂ = .ok r₂ ∧
      ofRecords? [r₁, r₂] = some s ∧ ofBytes s.fileBytes = .ok t ∧
      (∀ r ∈ [r₁, r₂], ∀ c ∈ r.position.coordinates, ∀ depth,
        (Value.float c).prettyChars depth ≠ Value.null.prettyChars depth) ∧
      t.nodeCount = s.nodeCount ∧ t.timestamp = s.timestamp ∧
      List.Forall₂ Record.SameReport [r₁, r₂] t.systems := by
  intro body₁ body₂
  have hok : ∀ body ∈ [body₁, body₂], (Record.ofBytes body).isOk = true := by decide +kernel
  have hsome : ∀ body ∈ [body₁, body₂], ∃ r, Record.ofBytes body = .ok r :=
    fun body hbody => exists_eq_ok_of_isOk (hok body hbody)
  obtain ⟨r₁, h₁⟩ := hsome body₁ List.mem_cons_self
  obtain ⟨r₂, h₂⟩ := hsome body₂ (List.mem_cons_of_mem _ List.mem_cons_self)
  have hdecoded : ∀ r ∈ [r₁, r₂], ∃ body, Record.ofBytes body = .ok r := by
    intro r hr
    simp only [List.mem_cons, List.not_mem_nil, or_false] at hr
    rcases hr with rfl | rfl
    · exact ⟨body₁, h₁⟩
    · exact ⟨body₂, h₂⟩
  obtain ⟨s, t, h⟩ := ofBytes_fileBytes_of_decoded (List.cons_ne_nil r₁ [r₂])
    (show 2 < UInt64.size by decide) hdecoded
  exact ⟨r₁, r₂, s, t, h₁, h₂, h⟩

end Snapshot

end StarSurvey
