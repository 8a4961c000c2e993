import StarSurvey.Peer.Server
import StarSurvey.Proofs.Record

/-!
# What a node serves is what a collector takes

- **Reports** (`Peer.Description.toValue_clockText`): up to the year 9999 a node reports the record of
  its description.
- **Replies** (`Peer.ofBytes_respond_iff`): its reply is decoded as that record, but that its coordinates
  are read again, if and only if they are all finite. A description may have others
  (`Peer.ofBytes_respond_refused_of_an_infinite_coordinate`).
-/

namespace StarSurvey

open Json

namespace Peer

open Calendar (Instant)

variable {d : Description} {now : Instant}

namespace Description

/-- The record that a description is at a time. -/
def record (d : Description) (now : Instant) : Record where
  name := d.name
  starType := ⟨.ofSymbol d.starClass, d.starDescription⟩
  position := d.position
  lastSeen := now.truncate

/-- Up to the year 9999 a node reports the record of its description. -/
theorem toValue_clockText (hyear : 0 ≤ now.date.year ∧ now.date.year ≤ 9999) :
    d.toValue (clockText now) = (d.record now).toValue := by
  rw [clockText, if_pos hyear, toValue, Record.toValue, StarType.toValue]
  simp only [record, StarClass.symbol_ofSymbol]

end Description

section Reply

variable (hyear : 0 ≤ now.date.year ∧ now.date.year ≤ 9999)

include hyear

theorem body_respond :
    (respond d (Description.clockText now) "GET" "/system").body = (d.record now).toValue.compact := by
  rw [← Description.toValue_clockText hyear]
  rfl

/-- With finite coordinates the reply is decoded as the record of the description, but that these are
read again. -/
theorem ofBytes_respond_of_finite (h : ∀ c ∈ d.position.coordinates, c.isFinite = true) :
    Record.ofBytes (Text.bytes (respond d (Description.clockText now) "GET" "/system").body) =
      .ok ((d.record now).mapCoordinates reread) := by
  rw [body_respond hyear]
  exact decode_compact (Record.readsText .compact
    ⟨h, StarClass.isReported_ofSymbol d.starClass⟩ 0)

/-- With any other coordinate the reply is refused. -/
theorem ofBytes_respond_of_not_finite (h : ∃ c ∈ d.position.coordinates, c.isFinite = false) :
    ∃ e, Record.ofBytes (Text.bytes
        (respond d (Description.clockText now) "GET" "/system").body) = .error e ∧
      e.cause = .misfit (.wrongType .nothing "f64") := by
  rw [body_respond hyear]
  exact decode_compact_of_refuses (Record.refusesText .compact
    (StarClass.isReported_ofSymbol d.starClass) h 0)

end Reply

/-- **What a node serves and what a collector takes of it.** Whatever the description of a node and
whatever its clock says in the years 0 to 9999: the reply to a request for its system is decoded as a
record if and only if all its coordinates are finite. Then the record has the name, the class and the
description as they are written, was last seen at that time but for the fraction of the second, and
has the coordinates that are read from their digits. If not, the reply is refused because of a null
where a number belongs. -/
theorem ofBytes_respond_iff (d : Description) (now : Instant)
    (hyear : 0 ≤ now.date.year ∧ now.date.year ≤ 9999) :
    let reply := respond d (Description.clockText now) "GET" "/system"
    let decoded := Record.ofBytes (Text.bytes reply.body)
    reply.status = 200 ∧
    ((∃ r, decoded = .ok r) ↔ ∀ c ∈ d.position.coordinates, c.isFinite = true) ∧
    (∀ r, decoded = .ok r → r.name = d.name ∧ r.starType.starClass.symbol = d.starClass ∧
      r.starType.description = d.starDescription ∧ r.lastSeen = now.truncate ∧
      r.position = d.position.map reread) ∧
    ((∃ c ∈ d.position.coordinates, c.isFinite = false) →
      ∃ e, decoded = .error e ∧ e.cause = .misfit (.wrongType .nothing "f64")) := by
  intro reply decoded
  have hfinite : ∀ r, decoded = .ok r → ∀ c ∈ d.position.coordinates, c.isFinite = true := by
    intro r hr
    by_contra hnot
    obtain ⟨e, he, -⟩ := ofBytes_respond_of_not_finite hyear (by simpa using hnot)
    exact absurd (hr.symm.trans he) nofun
  refine ⟨rfl, ⟨?_, ?_⟩, ?_, ofBytes_respond_of_not_finite hyear⟩
  · rintro ⟨r, hr⟩
    exact hfinite r hr
  · intro h
    exact ⟨_, ofBytes_respond_of_finite hyear h⟩
  · intro r hr
    obtain rfl : r = _ :=
      Except.ok.inj (hr.symm.trans (ofBytes_respond_of_finite hyear (hfinite r hr)))
    exact ⟨rfl, StarClass.symbol_ofSymbol d.starClass, rfl, rfl, rfl⟩

/-- A class of its own, a name with quotes and a backslash, and a fraction of a second. -/
theorem ofBytes_respond_of_a_quoted_name :
    let text := "name: 'Bee \"42\" \\'\nstar_type: \x7bclass: ' g2V', description: \"\\u00e9\"\x7d\n" ++
      "position: \x7bx: 1e3, y: -0.5, z: 31\x7d\n"
    let d : Description := ⟨"Bee \"42\" \\", " g2V", "é", ⟨1000, -0.5, 31⟩⟩
    let now : Instant := ⟨28488270, 45, 123456789, by decide, by decide, by decide⟩
    Description.ofText text = .ok d ∧ (0 ≤ now.date.year ∧ now.date.year ≤ 9999) ∧
      ∃ r, Record.ofBytes (Text.bytes
          (respond d (Description.clockText now) "GET" "/system").body) = .ok r ∧
        r.name = "Bee \"42\" \\" ∧ r.starType.starClass.symbol = " g2V" ∧
        r.starType.description = "é" ∧ r.lastSeen.timestamp = "2024-03-01T12:30:45Z" := by
  intro text d now
  have htext : Description.ofText text = .ok d := by decide +kernel
  have hyear : 0 ≤ now.date.year ∧ now.date.year ≤ 9999 := by decide
  have hfinite : ∀ c ∈ d.position.coordinates, c.isFinite = true := by decide +kernel
  obtain ⟨-, hiff, hsame, -⟩ := ofBytes_respond_iff d now hyear
  obtain ⟨r, hr⟩ := hiff.mpr hfinite
  obtain ⟨hname, hclass, hdescription, hseen, -⟩ := hsame r hr
  refine ⟨htext, hyear, r, hr, hname, hclass, hdescription, ?_⟩
  rw [hseen]
  decide +kernel

/-- A description is accepted with a coordinate that is not finite, and its reply is refused. -/
theorem ofBytes_respond_refused_of_an_infinite_coordinate :
    let text := "name: Sol\nstar_type: \x7bclass: G, description: Yellow dwarf\x7d\n" ++
      "position: \x7bx: .inf, y: 0, z: 0\x7d\n"
    let now : Instant := ⟨28488270, 45, 0, by decide, by decide, by decide⟩
    ∃ d e, Description.ofText text = .ok d ∧ (0 ≤ now.date.year ∧ now.date.year ≤ 9999) ∧
      Record.ofBytes (Text.bytes (respond d (Description.clockText now) "GET" "/system").body) =
        .error e ∧
      e.cause.message = "invalid type: null, expected f64" := by
  intro text now
  have hyear : 0 ≤ now.date.year ∧ now.date.year ≤ 9999 := by decide
  have hinfinite : (Description.ofText text).toOption.any (fun d =>
      d.position.coordinates.any fun c => !c.isFinite) = true := by decide +kernel
  cases htext : Description.ofText text with
  | error f => rw [htext] at hinfinite; cases hinfinite
  | ok d =>
    rw [htext] at hinfinite
    obtain ⟨e, he, hcause⟩ := ofBytes_respond_of_not_finite (d := d) hyear
      (by simpa [Except.toOption] using hinfinite)
    exact ⟨d, e, rfl, hyear, he, by rw [hcause]; rfl⟩

end Peer

end StarSurvey
