import StarSurvey.Json.Document
import StarSurvey.Proofs.Calendar.LocalTime
import StarSurvey.Proofs.Decoding

/-!
# When a system was last seen

A node may report a local time with its offset. The record has the instant that the local time stands
for (`Record.ofBytes_local_time`), so reports of one instant from different places make one record.
-/

namespace StarSurvey

open Json
open Calendar (LocalTime Instant)

namespace Calendar.LocalTime

/-- Two local times are the same instant: the same second, both in a leap second or neither, and the
same fraction of it. -/
structure SameInstant (l m : LocalTime) : Prop where
  seconds : l.seconds - 60 * l.zone.offset = m.seconds - 60 * m.zone.offset
  leap : l.second = 60 ↔ m.second = 60
  nano : l.nano = m.nano

theorem SameInstant.instant_eq {l m : LocalTime} (h : l.SameInstant m) : l.instant = m.instant := by
  have hl := l.standsFor_instant
  have hm := m.standsFor_instant
  have hseconds : l.instant.utcSeconds = m.instant.utcSeconds := by
    rw [hl.seconds, hm.seconds, h.seconds]
  obtain ⟨hminute, hsecond⟩ := Instant.minute_eq_of_utcSeconds_eq hseconds h.leap
  have hext : ∀ i j : Instant, i.minute = j.minute → i.second = j.second → i.nano = j.nano →
      i = j := by
    rintro ⟨_, _, _⟩ ⟨_, _, _⟩ rfl rfl rfl
    rfl
  exact hext _ _ hminute hsecond h.nano

end Calendar.LocalTime

/-- An object with all that a star system has, a local time as the time when it was last seen. -/
structure Record.Reports (ms : List (String × Source)) (name : String) (starType : StarType)
    (position : Position) (l : LocalTime) : Prop where
  name : Only "name" ms (· = .string (some name))
  starType : Only "star_type" ms (·.DecodesTo StarType.shape.read starType)
  position : Only "position" ms (·.DecodesTo Position.shape.read position)
  lastSeen : Only "last_seen_at" ms (· = .string (some l.text))

theorem Record.Reports.ofBytes_eq {ms : List (String × Source)} {body : List UInt8} {n : String}
    {t : StarType} {p : Position} {l : LocalTime} (h : Record.Reports ms n t p l)
    (hbody : IsDocument (.object ms) body) : Record.ofBytes body = .ok ⟨n, t, p, l.instant⟩ := by
  obtain ⟨front, bs, back, hfront, hbs, hback, rfl⟩ := hbody
  rw [Record.ofBytes, Record.layout.takes.decode_iff hbs hfront hback, Record.sense_object_iff hbs]
  refine ⟨h.name, h.starType, h.position, ?_⟩
  obtain ⟨v, hv, rfl⟩ := h.lastSeen
  exact ⟨_, hv, _, rfl, l.ofText_text⟩

/-- A report with a local time is decoded as a record with the instant in UTC, which is written with
a `Z`. Another report that differs in nothing but how the instant is written is decoded as the same
record. -/
theorem Record.ofBytes_local_time {ms : List (String × Source)} {body : List UInt8} {n : String}
    {t : StarType} {p : Position} {l : LocalTime} (hbody : IsDocument (.object ms) body)
    (h : Record.Reports ms n t p l) :
    ∃ i, Record.ofBytes body = .ok ⟨n, t, p, i⟩ ∧ i.StandsFor l ∧
      (∃ members text, (Record.mk n t p i).toValue = .object members ∧
        lookupMember "last_seen_at" members = some (.string text) ∧
        text.toList.getLast? = some 'Z') ∧
      ∀ ms' body' l', IsDocument (.object ms') body' → Record.Reports ms' n t p l' →
        l.SameInstant l' → Record.ofBytes body' = .ok ⟨n, t, p, i⟩ := by
  refine ⟨l.instant, h.ofBytes_eq hbody, l.standsFor_instant, ⟨_, _, rfl, rfl, ?_⟩, ?_⟩
  · rw [Instant.timestamp, String.toList_ofList, Instant.timestampChars]
    exact List.getLast?_concat
  · intro ms' body' l' hbody' h' hsame
    rw [hsame.instant_eq]
    exact h'.ofBytes_eq hbody'

/-- A leap second at the end of the year -1, reported from two places where the year 0 has begun. -/
theorem Record.ofBytes_local_time_of_two_places :
    let body (time : String) := Text.bytes ("\x7b\"name\":\"A\",\"star_type\":[\"G\",\"\"]," ++
      "\"position\":[0,0,0],\"last_seen_at\":\"" ++ time ++ "\"\x7d")
    ∃ r, Record.ofBytes (body "0000-01-01T00:29:60.12345678987+00:30") = .ok r ∧
      Record.ofBytes (body "0000-01-01t13:59:60.123456789+14:00") = .ok r ∧
      r.lastSeen.timestamp = "-0001-12-31T23:59:60.123456789Z" := by
  intro body
  let l : LocalTime := ⟨⟨0, 1, 1⟩, 0, 29, 60, "12345678987".toList, 'T',
    .shifted false 0 30 (by decide) (by decide), by decide, by decide, by decide, by decide,
    by decide, by decide, by decide⟩
  let m : LocalTime := ⟨⟨0, 1, 1⟩, 13, 59, 60, "123456789".toList, 't',
    .shifted false 14 0 (by decide) (by decide), by decide, by decide, by decide, by decide,
    by decide, by decide, by decide⟩
  let zero : Numeral := ⟨false, [0x30], [], none⟩
  have hzero : zero.WellFormed :=
    ⟨⟨by decide, List.all_eq_true.mp rfl⟩, by decide, List.all_eq_true.mp rfl, by simp [zero]⟩
  have hstar := Spells.list (.cons true .nil (spells_quoted_pieces "G") .nil
    (.cons false .nil (spells_quoted_pieces "") .nil (.nil false))) .nil
  have hposition := Spells.list (.cons true .nil (.number hzero false false) .nil
    (.cons false .nil (.number hzero false false) .nil
    (.cons false .nil (.number hzero false false) .nil (.nil false)))) .nil
  let ms (l : LocalTime) : List (String × Source) := [("name", .string (some "A")),
    ("star_type", .list [.string (some "G"), .string (some "")]),
    ("position", .list [.number zero, .number zero, .number zero]),
    ("last_seen_at", .string (some l.text))]
  have hobject := fun l : LocalTime => show Spells (.object (ms l)) _ from
    .object (.cons true (pieces "name") .nil (string?_pieces _) .nil .nil (spells_quoted_pieces _)
      .nil
    (.cons false (pieces "star_type") .nil (string?_pieces _) .nil .nil hstar .nil
    (.cons false (pieces "position") .nil (string?_pieces _) .nil .nil hposition .nil
    (.cons false (pieces "last_seen_at") .nil (string?_pieces _) .nil .nil (spells_quoted_pieces _)
      .nil
    (.nil false))))) .nil
  obtain ⟨bs₁, hbs₁, h₁⟩ : ∃ bs, bs = body "0000-01-01T00:29:60.12345678987+00:30" ∧
      Spells (.object (ms l)) bs := ⟨_, by decide +kernel, hobject l⟩
  obtain ⟨bs₂, hbs₂, h₂⟩ : ∃ bs, bs = body "0000-01-01t13:59:60.123456789+14:00" ∧
      Spells (.object (ms m)) bs := ⟨_, by decide +kernel, hobject m⟩
  have hsome : (Position.layout.sense (.list [.number zero, .number zero, .number zero])).isSome =
      true := by decide +kernel
  obtain ⟨p, hp⟩ := Option.isSome_iff_exists.mp hsome
  have hreports : ∀ l, Record.Reports (ms l) "A" ⟨.g, ""⟩ p l := fun l =>
    ⟨⟨_, rfl, rfl⟩, ⟨_, rfl, (StarType.layout.takes.decodesTo_iff hstar).mpr rfl⟩,
      ⟨_, rfl, (Position.layout.takes.decodesTo_iff hposition).mpr hp⟩, ⟨_, rfl, rfl⟩⟩
  obtain ⟨i, hi, -, -, hother⟩ := Record.ofBytes_local_time h₁.isDocument (hreports l)
  have hsame : l.SameInstant m := ⟨by decide +kernel, by decide +kernel, by decide +kernel⟩
  have hmi := hother _ _ m h₂.isDocument (hreports m) hsame
  rw [hbs₁] at hi
  rw [hbs₂] at hmi
  have htimestamp : (Record.ofBytes (body "0000-01-01T00:29:60.12345678987+00:30")).toOption.map
      (·.lastSeen.timestamp) = some "-0001-12-31T23:59:60.123456789Z" := by decide +kernel
  rw [hi] at htimestamp
  exact ⟨_, hi, hmi, Option.some.inj htimestamp⟩

end StarSurvey
