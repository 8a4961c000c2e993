import StarSurvey.Proofs.Json.Layout
import StarSurvey.Record

/-!
# Which bodies are decoded as records

A body that is an object is decoded if each of the four keys stands in it once, with a value that is
decoded as its field, and the record then has what these values say. The same goes for the objects of
star and position. Nothing else in the body matters: not the order of the members, not their texts,
not what stands under other keys.

- **Layouts** (`StarType.layout`, `Position.layout`, `Record.layout`).
- **What does not matter** (`SameRecord`).
- **The rule** (`Record.ofBytes_object`).
-/

namespace StarSurvey

open Json

/-! ## Layouts -/

/-- The members of a star. -/
def StarType.layout : Layout StarType.shape where
  cells :=
    [⟨"class", (·.starClass), fun p c => { p with starClass := some c },
        StarClass.ofSymbol <$> readText, fun v => v.text?.map StarClass.ofSymbol,
        takes_readText.map _⟩,
      ⟨"description", (·.description), fun p d => { p with description := some d }, readText,
        Source.text?, takes_readText⟩]
  parts t := ⟨some t.starClass, some t.description⟩
  fields_eq := rfl
  separate := by
    refine ⟨by decide, ?_, ?_, ?_⟩ <;> simp [shape]
  whole_eq_some_iff := by
    rintro ⟨c, d⟩ ⟨c', d'⟩
    simp [shape, Option.bind_eq_some_iff]
  isSome_parts t := by simp
  ext := by
    rintro ⟨c, d⟩ ⟨c', d'⟩ h
    simpa using h

/-- The members of a position. -/
def Position.layout : Layout Position.shape where
  cells :=
    [⟨"x", (·.x), fun p x => { p with x := some x }, readFloat, Source.double?, takes_readFloat⟩,
      ⟨"y", (·.y), fun p y => { p with y := some y }, readFloat, Source.double?, takes_readFloat⟩,
      ⟨"z", (·.z), fun p z => { p with z := some z }, readFloat, Source.double?, takes_readFloat⟩]
  parts p := ⟨some p.x, some p.y, some p.z⟩
  fields_eq := rfl
  separate := by
    refine ⟨by decide, ?_, ?_, ?_⟩ <;> simp [shape]
  whole_eq_some_iff := by
    rintro ⟨x, y, z⟩ ⟨x', y', z'⟩
    simp [shape, Option.bind_eq_some_iff]
  isSome_parts p := by simp
  ext := by
    rintro ⟨x, y, z⟩ ⟨x', y', z'⟩ h
    simpa using h

/-- The members of a star system. -/
def Record.layout : Layout Record.shape where
  cells :=
    [⟨"name", (·.name), fun p n => { p with name := some n }, readText, Source.text?,
        takes_readText⟩,
      ⟨"star_type", (·.starType), fun p t => { p with starType := some t }, StarType.shape.read,
        StarType.layout.sense, StarType.layout.takes⟩,
      ⟨"position", (·.position), fun p q => { p with position := some q }, Position.shape.read,
        Position.layout.sense, Position.layout.takes⟩,
      ⟨"last_seen_at", (·.lastSeen), fun p i => { p with lastSeen := some i }, readInstant,
        Source.instant?, takes_readInstant⟩]
  parts r := ⟨some r.name, some r.starType, some r.position, some r.lastSeen⟩
  fields_eq := rfl
  separate := by
    refine ⟨by decide, ?_, ?_, ?_⟩ <;> simp [shape]
  whole_eq_some_iff := by
    rintro ⟨n, t, p, i⟩ ⟨n', t', p', i'⟩
    simp [shape, Option.bind_eq_some_iff]
  isSome_parts r := by simp
  ext := by
    rintro ⟨n, t, p, i⟩ ⟨n', t', p', i'⟩ h
    simpa using h

/-! ## What does not matter -/

/-- Stars that differ at most in the order of class and description and in other members. -/
def SameStar : Source → Source → Prop := Alike StarType.shape.keys fun _ => Eq

/-- Positions that differ at most in the order of the coordinates and in other members. -/
def SamePosition : Source → Source → Prop := Alike Position.shape.keys fun _ => Eq

/-- Star systems that differ at most in the order of the members that are known, here and within star
and position, and in other members. -/
def SameRecord : Source → Source → Prop :=
  Alike Record.shape.keys fun k =>
    if k = "star_type" then SameStar else if k = "position" then SamePosition else Eq

theorem Record.sense_eq_of_same {v w : Source} (h : SameRecord v w) :
    Record.layout.sense v = Record.layout.sense w := by
  have hstar : ∀ {v w}, SameStar v w → StarType.layout.sense v = StarType.layout.sense w :=
    fun h => StarType.layout.sense_eq_of_alike (fun _ _ _ _ hvw => congrArg _ hvw) h
  have hposition : ∀ {v w}, SamePosition v w → Position.layout.sense v = Position.layout.sense w :=
    fun h => Position.layout.sense_eq_of_alike (fun _ _ _ _ hvw => congrArg _ hvw) h
  refine Record.layout.sense_eq_of_alike (fun c hc v w hvw => ?_) h
  simp only [layout, List.mem_cons, List.not_mem_nil, or_false] at hc
  rcases hc with rfl | rfl | rfl | rfl
  · exact congrArg Source.text? hvw
  · exact hstar hvw
  · exact hposition hvw
  · exact congrArg Source.instant? hvw

/-! ## The rule -/

variable {ms : List (String × Source)} {bs front : List UInt8}

theorem StarType.decodesTo_object_iff (h : Spells (.object ms) bs) {t : StarType} :
    (Source.object ms).DecodesTo StarType.shape.read t ↔
      Only "class" ms (fun v => ∃ s, v = .string (some s) ∧ StarClass.ofSymbol s = t.starClass) ∧
      Only "description" ms (· = .string (some t.description)) := by
  rw [StarType.layout.takes.decodesTo_iff h, StarType.layout.sense_object_eq_some_iff]
  simp [layout, Source.text?_eq_some_iff]

theorem Position.decodesTo_object_iff (h : Spells (.object ms) bs) {p : Position} :
    (Source.object ms).DecodesTo Position.shape.read p ↔
      ∀ q ∈ [("x", p.x), ("y", p.y), ("z", p.z)], Only q.1 ms fun v =>
        ∃ n c, v = .number n ∧ n.value = .ok c ∧ c.toFloat = q.2 := by
  rw [Position.layout.takes.decodesTo_iff h, Position.layout.sense_object_eq_some_iff]
  simp [layout, Source.double?_eq_some_iff]

theorem Record.sense_object_iff (h : Spells (.object ms) bs) {r : Record} :
    Record.layout.sense (.object ms) = some r ↔
      Only "name" ms (· = .string (some r.name)) ∧
      Only "star_type" ms (·.DecodesTo StarType.shape.read r.starType) ∧
      Only "position" ms (·.DecodesTo Position.shape.read r.position) ∧
      Only "last_seen_at" ms fun v =>
        ∃ s, v = .string (some s) ∧ Calendar.Instant.ofText s = .ok r.lastSeen := by
  obtain ⟨inside, hmembers⟩ : ∃ inside, SpellsMembers true ms inside := by
    cases h with
    | object members _ => exact ⟨_, members⟩
  have hstar : Only "star_type" ms (·.DecodesTo StarType.shape.read r.starType) ↔
      Only "star_type" ms fun v => StarType.layout.sense v = some r.starType := by
    refine only_congr fun v hv => ?_
    obtain ⟨cs, hcs⟩ := hmembers.exists_spells hv
    exact StarType.layout.takes.decodesTo_iff hcs
  have hposition : Only "position" ms (·.DecodesTo Position.shape.read r.position) ↔
      Only "position" ms fun v => Position.layout.sense v = some r.position := by
    refine only_congr fun v hv => ?_
    obtain ⟨cs, hcs⟩ := hmembers.exists_spells hv
    exact Position.layout.takes.decodesTo_iff hcs
  rw [hstar, hposition, Record.layout.sense_object_eq_some_iff]
  simp [layout, Source.text?_eq_some_iff, Source.instant?_eq_some_iff]

/-- When a body that is an object is decoded, what decides about it, and what is made of it: the
record says what its members with the four keys say, star and position what theirs do. Behind the
object there may be blanks only. -/
theorem Record.ofBytes_object (h : Spells (.object ms) bs) (hfront : AllBlank front) :
    (∀ back r, AllBlank back → (Record.ofBytes (front ++ (bs ++ back)) = .ok r ↔
      Only "name" ms (· = .string (some r.name)) ∧
      Only "star_type" ms (·.DecodesTo StarType.shape.read r.starType) ∧
      Only "position" ms (·.DecodesTo Position.shape.read r.position) ∧
      Only "last_seen_at" ms fun v =>
        ∃ s, v = .string (some s) ∧ Calendar.Instant.ofText s = .ok r.lastSeen)) ∧
    (∀ t, (Source.object ms).DecodesTo StarType.shape.read t ↔
      Only "class" ms (fun v => ∃ s, v = .string (some s) ∧ StarClass.ofSymbol s = t.starClass) ∧
      Only "description" ms (· = .string (some t.description))) ∧
    (∀ p, (Source.object ms).DecodesTo Position.shape.read p ↔
      ∀ q ∈ [("x", p.x), ("y", p.y), ("z", p.z)], Only q.1 ms fun v =>
        ∃ n c, v = .number n ∧ n.value = .ok c ∧ c.toFloat = q.2) ∧
    (∀ ms' bs' front' back back', Spells (.object ms') bs' → AllBlank front' → AllBlank back →
      AllBlank back' → SameRecord (.object ms) (.object ms') → ∀ r,
        (Record.ofBytes (front ++ (bs ++ back)) = .ok r ↔
          Record.ofBytes (front' ++ (bs' ++ back')) = .ok r)) ∧
    ∀ back, ¬ AllBlank back → ∃ e, Record.ofBytes (front ++ (bs ++ back)) = .error e := by
  have htakes := Record.layout.takes
  refine ⟨?_, fun t => StarType.decodesTo_object_iff h, fun p => Position.decodesTo_object_iff h,
    ?_, ?_⟩
  · intro back r hback
    exact (htakes.decode_iff h hfront hback).trans (Record.sense_object_iff h)
  · intro ms' bs' front' back back' h' hfront' hback hback' hsame r
    rw [Record.ofBytes, htakes.decode_iff h hfront hback, Record.sense_eq_of_same hsame,
      Record.ofBytes, htakes.decode_iff h' hfront' hback']
  · intro back hback
    exact exists_decode_eq_error_of_settles (htakes h hfront trivial) hback

/-- One system in two bodies. The second one has escapes, blanks and members that nobody asks for. -/
theorem Record.ofBytes_object_of_two_bodies :
    let body₁ := Text.bytes ("\x7b\"name\":\"A\"," ++
      "\"star_type\":\x7b\"class\":\"G\",\"description\":\"\"\x7d," ++
      "\"position\":[0,-1,2.5E0],\"last_seen_at\":\"2024-02-29T01:00:00Z\"\x7d")
    let body₂ := Text.bytes ("\x7b\"last_seen_at\":\"2024-02-29T01:00:00Z\",\t" ++
      "\"na\\u006De\" : \"A\"," ++
      "\"star_type\":\x7b\"description\":\"\",\"n\":[null],\"class\":\"G\"\x7d," ++
      "\"position\":[0,-1,2.5E0],\"\":[\x7b\x7d]\x7d")
    ∃ r, Record.ofBytes body₁ = .ok r ∧ Record.ofBytes body₂ = .ok r ∧
      ∃ e, Record.ofBytes (body₁ ++ [0x7D]) = .error e := by
  intro body₁ body₂
  have text := spells_quoted_pieces
  have key := string?_pieces
  let starClass : String × Source := ("class", .string (some "G"))
  let description : String × Source := ("description", .string (some ""))
  let star := [starClass, description]
  let star' := [description, ("n", .list [.null]), starClass]
  let x : Numeral := ⟨false, [0x30], [], none⟩
  let y : Numeral := ⟨true, [0x31], [], none⟩
  let z : Numeral := ⟨false, [0x32], [0x35], some ⟨false, [0x30]⟩⟩
  let name : String × Source := ("name", .string (some "A"))
  let position : String × Source := ("position", .list [.number x, .number y, .number z])
  let seen : String × Source := ("last_seen_at", .string (some "2024-02-29T01:00:00Z"))
  have hx : x.WellFormed :=
    ⟨⟨by decide, List.all_eq_true.mp rfl⟩, by decide, List.all_eq_true.mp rfl, by simp [x]⟩
  have hy : y.WellFormed :=
    ⟨⟨by decide, List.all_eq_true.mp rfl⟩, by decide, List.all_eq_true.mp rfl, by simp [y]⟩
  have hz : z.WellFormed := by
    refine ⟨⟨by decide, List.all_eq_true.mp rfl⟩, by decide, List.all_eq_true.mp rfl, ?_⟩
    rintro _ ⟨⟩
    exact ⟨by decide, List.all_eq_true.mp rfl⟩
  have hposition := Spells.list (.cons true .nil (.number hx false false) .nil
    (.cons false .nil (.number hy false false) .nil
    (.cons false .nil (.number hz true false) .nil (.nil false)))) .nil
  obtain ⟨bs₁, hbs₁, h₁⟩ :
      ∃ bs, bs = body₁ ∧ Spells (.object [name, ("star_type", .object star), position, seen]) bs := by
    refine ⟨_, ?_, .object (.cons true (pieces "name") .nil (key _) .nil .nil (text _) .nil
      (.cons false (pieces "star_type") .nil (key _) .nil .nil (.object
        (.cons true (pieces "class") .nil (key _) .nil .nil (text _) .nil
        (.cons false (pieces "description") .nil (key _) .nil .nil (text _) .nil
        (.nil false))) .nil) .nil
      (.cons false (pieces "position") .nil (key _) .nil .nil hposition .nil
      (.cons false (pieces "last_seen_at") .nil (key _) .nil .nil (text _) .nil
      (.nil false))))) .nil⟩
    decide +kernel
  -- the letter `m` of the name, by its number
  let m : Piece := .code ⟨⟨0, false⟩, ⟨0, false⟩, ⟨6, false⟩, ⟨13, true⟩⟩
  obtain ⟨bs₂, hbs₂, h₂⟩ : ∃ bs, bs = body₂ ∧ Spells (.object [seen, name,
      ("star_type", .object star'), position, ("", .list [.object []])]) bs := by
    have htab : AllBlank [0x09] := by simp [AllBlank, isBlank]
    have hspace : AllBlank [0x20] := by simp [AllBlank, isBlank]
    refine ⟨_, ?_, .object (.cons true (pieces "last_seen_at") .nil (key _) .nil .nil (text _) .nil
      (.cons false (pieces "na" ++ m :: pieces "e") htab (by decide +kernel) hspace hspace (text _)
        .nil
      (.cons false (pieces "star_type") .nil (key _) .nil .nil (.object
        (.cons true (pieces "description") .nil (key _) .nil .nil (text _) .nil
        (.cons false (pieces "n") .nil (key _) .nil .nil
          (.list (.cons true .nil .null .nil (.nil false)) .nil) .nil
        (.cons false (pieces "class") .nil (key _) .nil .nil (text _) .nil
        (.nil false)))) .nil) .nil
      (.cons false (pieces "position") .nil (key _) .nil .nil hposition .nil
      (.cons false (pieces "") .nil (key _) .nil .nil
        (.list (.cons true .nil (.object (.nil true) .nil) .nil (.nil false)) .nil) .nil
      (.nil false)))))) .nil⟩
    decide +kernel
  have hstar : SameStar (.object star) (.object star') :=
    .object (.swap description starClass []) (.cons ⟨rfl, rfl⟩ (.cons ⟨rfl, rfl⟩ .nil))
  have hsame : SameRecord (.object [name, ("star_type", .object star), position, seen])
      (.object [seen, name, ("star_type", .object star'), position, ("", .list [.object []])]) :=
    .object (List.perm_append_singleton seen [name, ("star_type", .object star), position])
      (.cons ⟨rfl, rfl⟩ (.cons ⟨rfl, rfl⟩ (.cons ⟨rfl, hstar⟩ (.cons ⟨rfl, .refl _⟩ .nil))))
  have hok : (Record.ofBytes body₁).isOk = true := by decide +kernel
  obtain ⟨r, hr⟩ := exists_eq_ok_of_isOk hok
  obtain ⟨-, -, -, hagree, hbehind⟩ := Record.ofBytes_object h₁ .nil
  have hboth := hagree _ _ [] [] [] h₂ .nil .nil .nil hsame r
  simp only [List.nil_append, List.append_nil, hbs₁, hbs₂] at hboth hbehind
  exact ⟨r, hr, hboth.mp hr, hbehind [0x7D] (by simp [AllBlank, isBlank])⟩

end StarSurvey
