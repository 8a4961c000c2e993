import StarSurvey.Payload
import StarSurvey.Proofs.Decoding
import StarSurvey.Proofs.Json.Members
import StarSurvey.Proofs.Json.Writing
import StarSurvey.Proofs.Record

/-!
# What a payload holds

A payload is built by calls, each of which sets one field or takes it out. Of all the calls on a field
the last one counts, whatever is done to other fields; so a body is decoded as a record if the last
calls on the four fields of a record say one.

- **Calls** (`Call`, `mem_perform_iff`): a call matters to its own field only.
- **Runs** (`LastOn`, `mem_run_iff`, `run_swap`): what is held after all calls.
- **Decoding** (`exists_writes_star`, `exists_writes_position`): what the collector makes of the fields.
- **Payloads** (`ofBytes_ofName`, `built_of_last_calls`).
-/

namespace StarSurvey.Payload

open Json
open Calendar (Instant)

/-! ## Calls -/

/-- What may be done to a payload. -/
inductive Call where
  | star (starClass description : String)
  | position (x y z : Float)
  | lastSeen (text : String)
  | setField (field : String) (v : Value)
  | without (field : String)

namespace Call

/-- The field that a call is about. -/
def key : Call → String
  | .star _ _ => "star_type"
  | .position _ _ _ => "position"
  | .lastSeen _ => lastSeenField
  | .setField field _ => field
  | .without field => field

/-- The value that a call sets its field to; none if it takes it out. -/
def value? : Call → Option Value
  | .star c d => some (.object [("class", .string c), ("description", .string d)])
  | .position x y z =>
    let coordinate (x : Float) : Value := if x.isFinite then .float x else .null
    some (.object [("x", coordinate x), ("y", coordinate y), ("z", coordinate z)])
  | .lastSeen text => some (.string text)
  | .setField _ v => some v
  | .without _ => none

end Call

/-- Does what a call says. -/
def perform (p : Payload) : Call → Payload
  | .star c d => p.star c d
  | .position x y z => p.position x y z
  | .lastSeen text => p.lastSeen text
  | .setField field v => p.setField field v
  | .without field => p.without field

variable {p : Payload} {c d : Call} {k : String} {v : Value} {calls : List Call}

theorem members_perform (p : Payload) (c : Call) : (p.perform c).members =
    match c.value? with
    | some v => insertMember c.key v p.members
    | none => eraseMember c.key p.members := by
  cases c <;> rfl

theorem isSorted_perform (h : IsSorted p.members) (c : Call) : IsSorted (p.perform c).members := by
  rw [members_perform]
  split
  · exact h.insertMember _ _
  · exact h.eraseMember _

/-- A call decides about its own field, and leaves all others. -/
theorem mem_perform_iff (h : IsSorted p.members) :
    (k, v) ∈ (p.perform c).members ↔ if k = c.key then c.value? = some v else (k, v) ∈ p.members := by
  rw [members_perform]
  cases hvalue : c.value? with
  | some w => simp only [mem_insertMember_iff h, Option.some.injEq, eq_comm]
  | none => by_cases hk : k = c.key <;> simp [mem_eraseMember_iff, hk]

theorem perform_perform_of_ne (h : IsSorted p.members) (hkey : c.key ≠ d.key) :
    (p.perform c).perform d = (p.perform d).perform c := by
  have hc := isSorted_perform h c
  have hd := isSorted_perform h d
  have hmembers : ((p.perform c).perform d).members = ((p.perform d).perform c).members := by
    refine (isSorted_perform hc d).ext (isSorted_perform hd c) fun k v => ?_
    rw [mem_perform_iff hc, mem_perform_iff hd, mem_perform_iff h, mem_perform_iff h]
    by_cases hk : k = c.key
    · simp [hk, hkey]
    · simp [hk]
  exact congrArg Payload.mk hmembers

/-! ## Runs -/

/-- All calls, one after the other. -/
def run (p : Payload) (calls : List Call) : Payload := calls.foldl perform p

theorem run_append (p : Payload) (calls calls' : List Call) :
    p.run (calls ++ calls') = (p.run calls).run calls' :=
  List.foldl_append

/-- A call is the last one on a field. -/
def LastOn (k : String) (calls : List Call) (c : Call) : Prop :=
  ∃ before after, calls = before ++ c :: after ∧ c.key = k ∧ ∀ d ∈ after, d.key ≠ k

theorem lastOn_concat : LastOn k (calls ++ [d]) c ↔ if k = d.key then c = d else LastOn k calls c := by
  constructor
  · rintro ⟨before, after, heq, rfl, hafter⟩
    rcases List.eq_nil_or_concat' after with rfl | ⟨after, e, rfl⟩
    · obtain ⟨rfl, hd⟩ := List.append_inj' heq rfl
      obtain rfl : d = c := List.singleton_inj.mp hd
      rw [if_pos rfl]
    · rw [← List.cons_append, ← List.append_assoc] at heq
      obtain ⟨rfl, hd⟩ := List.append_inj' heq rfl
      obtain rfl : d = e := List.singleton_inj.mp hd
      rw [if_neg (Ne.symm (hafter d (by simp)))]
      exact ⟨before, after, rfl, rfl, fun e he => hafter e (List.mem_append_left _ he)⟩
  · intro h
    split at h
    · rename_i hk
      subst h
      exact ⟨calls, [], rfl, hk.symm, fun e he => nomatch he⟩
    · rename_i hk
      obtain ⟨before, after, rfl, hkey, hafter⟩ := h
      refine ⟨before, after ++ [d], by simp, hkey, fun e he => ?_⟩
      rcases List.mem_append.mp he with he | he
      · exact hafter e he
      · rw [List.mem_singleton.mp he]
        exact Ne.symm hk

/-- Only one call is the last. -/
theorem LastOn.unique (hc : LastOn k calls c) (hd : LastOn k calls d) : c = d := by
  induction calls using List.reverseRecOn with
  | nil =>
    obtain ⟨before, after, heq, -⟩ := hc
    cases before <;> cases heq
  | append_singleton calls e ih =>
    rw [lastOn_concat] at hc hd
    split at hc
    · rename_i hk
      rw [if_pos hk] at hd
      exact hc.trans hd.symm
    · rename_i hk
      rw [if_neg hk] at hd
      exact ih hc hd

theorem isSorted_run (h : IsSorted p.members) (calls : List Call) :
    IsSorted (p.run calls).members := by
  induction calls generalizing p with
  | nil => exact h
  | cons c calls ih => exact ih (isSorted_perform h c)

/-- What is held after all calls is what the last call on each field set. -/
theorem mem_run_iff (calls : List Call) :
    (k, v) ∈ (run ⟨[]⟩ calls).members ↔ ∃ c, LastOn k calls c ∧ c.value? = some v := by
  induction calls using List.reverseRecOn with
  | nil => simp [run, LastOn]
  | append_singleton calls d ih =>
    have hsorted : IsSorted (run ⟨[]⟩ calls).members := isSorted_run .nil calls
    rw [run_append]
    show (k, v) ∈ ((run ⟨[]⟩ calls).perform d).members ↔ _
    rw [mem_perform_iff hsorted]
    simp only [lastOn_concat]
    split
    · simp
    · exact ih

/-- Neighbouring calls on different fields may change places. -/
theorem run_swap (h : IsSorted p.members) (before after : List Call) (hkey : c.key ≠ d.key) :
    p.run (before ++ c :: d :: after) = p.run (before ++ d :: c :: after) := by
  rw [run_append, run_append]
  exact congrArg (run · after) (perform_perform_of_ne (isSorted_run h before) hkey)

/-! ## Decoding -/

/-- A star is taken for one with this class and this description. -/
theorem exists_writes_star {starClass description : String}
    (h : (Call.star starClass description).value? = some v) : ∃ s, Writes v s ∧
      StarType.layout.sense s = some ⟨StarClass.ofSymbol starClass, description⟩ := by
  cases h
  refine StarType.layout.exists_writes_object ?_ fun cell hcell => ?_
  · exact (by decide : ["class", "description"].Nodup)
  · simp only [StarType.layout, List.mem_cons, List.not_mem_nil, or_false] at hcell
    rcases hcell with rfl | rfl
    · exact ⟨_, _, .head _, writes_string _, rfl⟩
    · exact ⟨_, _, .tail _ (.head _), writes_string _, rfl⟩

/-- A position whose coordinates are finite is taken for one with these, read again. -/
theorem exists_writes_position {q : Position} (hfinite : ∀ c ∈ q.coordinates, c.isFinite = true)
    (h : (Call.position q.x q.y q.z).value? = some v) : ∃ s, Writes v s ∧
      Position.layout.sense s = some (q.map reread) := by
  simp only [Position.coordinates, List.mem_cons, List.not_mem_nil, or_false, forall_eq_or_imp,
    forall_eq] at hfinite
  obtain ⟨hx, hy, hz⟩ := hfinite
  obtain ⟨sx, hsx, hx'⟩ := exists_writes_float hx
  obtain ⟨sy, hsy, hy'⟩ := exists_writes_float hy
  obtain ⟨sz, hsz, hz'⟩ := exists_writes_float hz
  simp only [Call.value?, hx, hy, hz, if_true, Option.some.injEq] at h
  subst h
  refine Position.layout.exists_writes_object ?_ fun cell hcell => ?_
  · exact (by decide : ["x", "y", "z"].Nodup)
  · simp only [Position.layout, List.mem_cons, List.not_mem_nil, or_false] at hcell
    rcases hcell with rfl | rfl | rfl
    · exact ⟨_, sx, .head _, hsx, hx'⟩
    · exact ⟨_, sy, .tail _ (.head _), hsy, hy'⟩
    · exact ⟨_, sz, .tail _ (.tail _ (.head _)), hsz, hz'⟩

/-- The last calls on the four fields of a record say what is in them. -/
structure Describes (calls : List Call) (name starClass description : String) (q : Position)
    (text : String) : Prop where
  name : LastOn "name" calls (.setField "name" (.string name))
  star : LastOn "star_type" calls (.star starClass description)
  position : LastOn "position" calls (.position q.x q.y q.z)
  lastSeen : LastOn lastSeenField calls (.lastSeen text)

/-- Whatever other fields there are, the payload is decoded as a record with what is in the four. -/
theorem Describes.ofBytes_eq {name starClass description text : String} {q : Position} {i : Instant}
    (h : Describes calls name starClass description q text)
    (hfinite : ∀ c ∈ q.coordinates, c.isFinite = true) (htext : Instant.ofText text = .ok i) :
    let body := (run ⟨[]⟩ calls).toValue
    let r : Record := ⟨name, ⟨StarClass.ofSymbol starClass, description⟩, q.map reread, i⟩
    Record.ofBytes (Text.bytes body.compact) = .ok r ∧
      Record.ofBytes (Text.bytes body.pretty) = .ok r := by
  intro body r
  have hmember : ∀ {k c v}, LastOn k calls c → c.value? = some v → (k, v) ∈ (run ⟨[]⟩ calls).members :=
    fun hlast hvalue => (mem_run_iff calls).mpr ⟨_, hlast, hvalue⟩
  obtain ⟨star, hstar, hstar'⟩ :=
    exists_writes_star (rfl : (Call.star starClass description).value? = _)
  obtain ⟨position, hposition, hposition'⟩ :=
    exists_writes_position hfinite (rfl : (Call.position q.x q.y q.z).value? = _)
  have hkeys : ((run ⟨[]⟩ calls).members.map Prod.fst).Nodup := (isSorted_run .nil calls).nodup_keys
  obtain ⟨s, hs, hsense⟩ : ∃ s, Writes body s ∧ Record.layout.sense s = some r := by
    refine Record.layout.exists_writes_object hkeys fun cell hcell => ?_
    simp only [Record.layout, List.mem_cons, List.not_mem_nil, or_false] at hcell
    rcases hcell with rfl | rfl | rfl | rfl
    · exact ⟨_, _, hmember h.name rfl, writes_string _, rfl⟩
    · exact ⟨_, star, hmember h.star rfl, hstar, hstar'⟩
    · exact ⟨_, position, hmember h.position rfl, hposition, hposition'⟩
    · exact ⟨_, _, hmember h.lastSeen rfl, writes_string _,
        Source.instant?_eq_some_iff.mpr ⟨text, rfl, htext⟩⟩
  exact hs.decode_eq Record.layout.takes hsense

/-! ## Payloads -/

/-- The calls that make a payload of a name. -/
def opening (name : String) (now : Instant) : List Call :=
  [.setField "name" (.string name), .star "G" "Yellow dwarf", .position 0 0 0,
    .lastSeen now.truncate.timestamp]

/-- The payload of a name after some calls. -/
def built (name : String) (now : Instant) (calls : List Call) : Payload :=
  (ofName name now).run calls

theorem ofName_eq (name : String) (now : Instant) : ofName name now = run ⟨[]⟩ (opening name now) :=
  rfl

theorem built_eq (name : String) (now : Instant) (calls : List Call) :
    built name now calls = run ⟨[]⟩ (opening name now ++ calls) := by
  rw [built, ofName_eq, run_append]

/-- What no call touches is as it was made. -/
theorem lastOn_opening {name : String} {now : Instant} (hc : c ∈ opening name now)
    (hcalls : ∀ d ∈ calls, d.key ≠ c.key) : LastOn c.key (opening name now ++ calls) c := by
  obtain ⟨before, after, hopening, -, hafter⟩ : LastOn c.key (opening name now) c := by
    simp only [opening, List.mem_cons, List.not_mem_nil, or_false] at hc
    rcases hc with rfl | rfl | rfl | rfl
    · exact ⟨[], _, rfl, rfl, by simp [Call.key, lastSeenField]⟩
    · exact ⟨[_], _, rfl, rfl, by simp [Call.key, lastSeenField]⟩
    · exact ⟨[_, _], _, rfl, rfl, by simp [Call.key, lastSeenField]⟩
    · exact ⟨[_, _, _], _, rfl, rfl, by simp⟩
  refine ⟨before, after ++ calls, by simp [hopening], rfl, fun d hd => ?_⟩
  exact (List.mem_append.mp hd).elim (hafter d) (hcalls d)

/-- A payload that nothing is done to is decoded as a yellow dwarf at the origin. -/
theorem ofBytes_ofName (name : String) (now : Instant) :
    let r : Record := ⟨name, ⟨.g, "Yellow dwarf"⟩, .origin, now.truncate⟩
    Record.ofBytes (Text.bytes (ofName name now).toValue.compact) = .ok r ∧
      Record.ofBytes (Text.bytes (ofName name now).toValue.pretty) = .ok r := by
  intro r
  have hlast : ∀ c ∈ opening name now, LastOn c.key (opening name now) c := by
    intro c hc
    rw [← List.append_nil (opening name now)]
    exact lastOn_opening hc fun d hd => nomatch hd
  have hdescribes : Describes (opening name now) name "G" "Yellow dwarf" .origin
      now.truncate.timestamp :=
    ⟨hlast _ (.head _), hlast _ (.tail _ (.head _)), hlast _ (.tail _ (.tail _ (.head _))),
      hlast _ (.tail _ (.tail _ (.tail _ (.head _))))⟩
  have hfinite : ∀ c ∈ Position.origin.coordinates, c.isFinite = true := by decide +kernel
  have horigin : Position.origin.map reread = .origin := by decide +kernel
  have hdecoded := hdescribes.ofBytes_eq hfinite (Instant.ofText_timestamp now.truncate)
  rwa [horigin] at hdecoded

/-- **The last call on a field counts.** A payload of a name, after whatever calls, is an object in
which each key stands once. A key is in it if the last call on this field has set it, with the value
of this call; the calls that made the payload come first, and count where no other call touches their
field. So neighbouring calls on different fields may change places. If the last calls on the four
fields of a record are a name, a star, a position with finite coordinates and the text of an instant,
then the text of the payload, with blanks or without, is decoded as a record that has them, whatever
other fields there are; but the coordinates are as they are read again. -/
theorem built_of_last_calls (name : String) (now : Instant) (calls : List Call) :
    (∃ ms, (built name now calls).toValue = .object ms ∧ (ms.map Prod.fst).Nodup ∧
      (∀ k v, (k, v) ∈ ms ↔ ∃ c, LastOn k (opening name now ++ calls) c ∧ c.value? = some v) ∧
      ∀ k c, LastOn k (opening name now ++ calls) c → ∀ v, (k, v) ∈ ms ↔ c.value? = some v) ∧
    (∀ c ∈ opening name now, (∀ d ∈ calls, d.key ≠ c.key) →
      LastOn c.key (opening name now ++ calls) c) ∧
    (∀ before c d after, calls = before ++ c :: d :: after → c.key ≠ d.key →
      built name now (before ++ d :: c :: after) = built name now calls) ∧
    (∀ n starClass description q text i,
      Describes (opening name now ++ calls) n starClass description q text →
      (∀ c ∈ q.coordinates, c.isFinite = true) → Instant.ofText text = .ok i →
      ∃ r, Record.ofBytes (Text.bytes (built name now calls).toValue.compact) = .ok r ∧
        Record.ofBytes (Text.bytes (built name now calls).toValue.pretty) = .ok r ∧
        r.name = n ∧ r.starType.starClass.symbol = starClass ∧
        r.starType.description = description ∧ r.lastSeen = i ∧ r.position = q.map reread) := by
  have hsorted : IsSorted (ofName name now).members := isSorted_run .nil (opening name now)
  have hmembers : ∀ k v, (k, v) ∈ (built name now calls).members ↔
      ∃ c, LastOn k (opening name now ++ calls) c ∧ c.value? = some v := by
    intro k v
    rw [built_eq]
    exact mem_run_iff _
  refine ⟨⟨_, rfl, (isSorted_run hsorted calls).nodup_keys, hmembers, fun k c hlast v => ?_⟩,
    fun c hc => lastOn_opening hc, ?_, ?_⟩
  · rw [hmembers]
    constructor
    · rintro ⟨d, hd, hvalue⟩
      rwa [hlast.unique hd]
    · exact fun hvalue => ⟨c, hlast, hvalue⟩
  · rintro before c d after rfl hkey
    exact run_swap hsorted before after (Ne.symm hkey)
  · intro n starClass description q text i hdescribes hfinite htext
    obtain ⟨hcompact, hpretty⟩ := hdescribes.ofBytes_eq hfinite htext
    rw [built_eq]
    exact ⟨_, hcompact, hpretty, rfl, StarClass.symbol_ofSymbol starClass, rfl, rfl, rfl⟩

/-- A red dwarf in a payload with a field that is taken out again and one that no record has. -/
theorem built_of_last_calls_of_a_red_dwarf :
    let now : Instant := ⟨28488270, 45, 123456789, by decide, by decide, by decide⟩
    let seen : Instant := ⟨28401120, 0, 0, by decide, by decide, by decide⟩
    let note : Call := .setField "note" (.list [.null, .boolean true])
    let extra : Call := .setField "\"" (.object [("name", .count 3)])
    let calls : List Call := [note, .star "g" "", .star "M" "Red dwarf", .without "note", extra,
      .lastSeen "2024-01-01T01:00:00+01:00", .position 1.3 (-0.5) 2]
    let calls' : List Call := [note, .star "g" "", .star "M" "Red dwarf", extra, .without "note",
      .lastSeen "2024-01-01T01:00:00+01:00", .position 1.3 (-0.5) 2]
    let body := (built "Proxima" now calls).toValue
    built "Proxima" now calls' = built "Proxima" now calls ∧
      (∃ ms, body = .object ms ∧ (∀ v, ("note", v) ∉ ms) ∧
        ("\"", .object [("name", .count 3)]) ∈ ms) ∧
      ∃ r, Record.ofBytes (Text.bytes body.compact) = .ok r ∧ r.name = "Proxima" ∧
        r.starType.starClass.symbol = "M" ∧ r.starType.description = "Red dwarf" ∧
        r.lastSeen = seen := by
  intro now seen note extra calls calls' body
  obtain ⟨⟨ms, hbody, -, -, hlast⟩, hopening, hswap, hrecord⟩ :=
    built_of_last_calls "Proxima" now calls
  let all := opening "Proxima" now ++ calls
  have hname : LastOn "name" all (.setField "name" (.string "Proxima")) :=
    hopening _ (.head _) (by decide)
  have hstar : LastOn "star_type" all (.star "M" "Red dwarf") :=
    ⟨opening "Proxima" now ++ calls.take 2, calls.drop 3, rfl, rfl, by decide⟩
  have hnote : LastOn "note" all (.without "note") :=
    ⟨opening "Proxima" now ++ calls.take 3, calls.drop 4, rfl, rfl, by decide⟩
  have hextra : LastOn "\"" all extra :=
    ⟨opening "Proxima" now ++ calls.take 4, calls.drop 5, rfl, rfl, by decide⟩
  have hseen : LastOn lastSeenField all (.lastSeen "2024-01-01T01:00:00+01:00") :=
    ⟨opening "Proxima" now ++ calls.take 5, calls.drop 6, rfl, rfl, by decide⟩
  have hposition : LastOn "position" all (.position 1.3 (-0.5) 2) :=
    ⟨opening "Proxima" now ++ calls.take 6, [], rfl, rfl, by decide⟩
  have hfinite : ∀ c ∈ (Position.mk 1.3 (-0.5) 2).coordinates, c.isFinite = true := by decide +kernel
  have htext : Instant.ofText "2024-01-01T01:00:00+01:00" = .ok seen := by decide +kernel
  obtain ⟨r, hr, -, hn, hclass, hdescription, hlastSeen, -⟩ := hrecord "Proxima" "M" "Red dwarf"
    ⟨1.3, -0.5, 2⟩ _ seen ⟨hname, hstar, hposition, hseen⟩ hfinite htext
  refine ⟨hswap (calls.take 3) (.without "note") extra (calls.drop 5) rfl (by decide),
    ⟨ms, hbody, fun v hv => ?_, (hlast _ _ hextra _).mpr rfl⟩, r, hr, hn, hclass, hdescription, hlastSeen⟩
  cases (hlast _ _ hnote v).mp hv

end StarSurvey.Payload
