import StarSurvey.Proofs.Collection
import StarSurvey.Proofs.Console
import StarSurvey.Proofs.Partial

/-!
# The stages of a fetch

- **Responses** (`Reply.response?_eq_some_iff`): what begins to arrive from a node, and whether its body
  arrives in full.
- **Failures** (`Contact.fetch_of_not_reaches`, `Contact.fetch_of_whole`): before a response begins a
  fetch fails to connect; from there on the response alone decides.
- **Stages** (`Contact.fetch_classified`): so a fetch fails at the first stage that breaks, and beyond
  its mention in a failure the status of a response plays no part.
-/

namespace StarSurvey

/-! ## Responses -/

/-- What begins to arrive from a reply: a status, and the body if that arrives in full. A status that
has no body ends the response, whatever else was to come. -/
inductive Reply.Begins : Reply → Nat → Option (List UInt8) → Prop
  | whole {status : Nat} {body : List UInt8} : isFinal status → carriesBody status →
    Begins (.complete status body) status (some body)
  | cut {status : Nat} {body : List UInt8} : isFinal status → carriesBody status →
    Begins (.truncated status body) status none
  | bare {status : Nat} {body : List UInt8} : isFinal status → ¬ carriesBody status →
    Begins (.complete status body) status (some [])
  | bareCut {status : Nat} {body : List UInt8} : isFinal status → ¬ carriesBody status →
    Begins (.truncated status body) status (some [])

theorem Reply.response?_eq_some_iff {r : Reply} {status : Nat} {body : Option (List UInt8)} :
    r.response? = some (status, body) ↔ r.Begins status body := by
  constructor
  · intro h
    cases r with
    | dropped => cases h
    | truncated s b =>
      simp only [response?] at h
      split_ifs at h with hfinal hbody <;> cases h
      · exact .cut hfinal hbody
      · exact .bareCut hfinal hbody
    | complete s b =>
      simp only [response?] at h
      split_ifs at h with hfinal hbody <;> cases h
      · exact .whole hfinal hbody
      · exact .bare hfinal hbody
  · rintro (⟨hfinal, hbody⟩ | ⟨hfinal, hbody⟩ | ⟨hfinal, hbody⟩ | ⟨hfinal, hbody⟩) <;>
      simp [response?, hfinal, hbody]

/-! ## Failures -/

/-- A failure with another status in it, if there is one in it. -/
def FetchError.withStatus (status : Nat) (e : FetchError) : FetchError :=
  match e.fault with
  | .undecodable _ f => ⟨e.address, .undecodable status f⟩
  | _ => e

namespace Contact

variable {link : Link} {c : Contact} {status : Nat} {body : Option (List UInt8)}

/-- A request gets to the node, and its response begins to arrive. -/
structure Reaches (link : Link) (c : Contact) (status : Nat) (body : Option (List UInt8)) : Prop where
  link_up : link = .up
  usable : c.isUnusable = false
  begins : c.reply.Begins status body

theorem isUnusable_eq_false_iff :
    c.isUnusable = false ↔ ∃ url, Network.Url.ofAddress? c.address = some url ∧ url.isSendable := by
  unfold isUnusable
  cases Network.Url.ofAddress? c.address <;> simp

/-- A response that is cut off has no record. -/
theorem fetch_of_cut (h : c.Reaches link status none) :
    c.fetch link = .error ⟨c.address, .incomplete⟩ := by
  obtain ⟨url, hurl, hsendable⟩ := isUnusable_eq_false_iff.mp h.usable
  simp [fetch, hurl, hsendable, h.link_up, Reply.response?_eq_some_iff.mpr h.begins]

/-- The body of a response that arrives in full is decoded, whatever its status. -/
theorem fetch_of_whole {bs : List UInt8} (h : c.Reaches link status (some bs)) :
    c.fetch link = (Record.ofBytes bs).mapError fun e => ⟨c.address, .undecodable status e⟩ := by
  obtain ⟨url, hurl, hsendable⟩ := isUnusable_eq_false_iff.mp h.usable
  simp [fetch, hurl, hsendable, h.link_up, Reply.response?_eq_some_iff.mpr h.begins]

/-- A node whose response does not begin counts as not connected to. -/
theorem fetch_of_not_reaches (h : ∀ status body, ¬ c.Reaches link status body) :
    ∃ fault, c.fetch link = .error ⟨c.address, fault⟩ ∧ fault.stage = .connect := by
  unfold fetch
  split
  · exact ⟨_, rfl, rfl⟩
  · rename_i url hurl
    split_ifs with hsendable
    · exact ⟨_, rfl, rfl⟩
    · have husable : c.isUnusable = false :=
        isUnusable_eq_false_iff.mpr ⟨url, hurl, by simpa using hsendable⟩
      split
      · exact ⟨_, rfl, rfl⟩
      · exact ⟨_, rfl, rfl⟩
      · rename_i status hresponse
        exact absurd ⟨rfl, husable, Reply.response?_eq_some_iff.mp hresponse⟩ (h status none)
      · rename_i status bs hresponse
        exact absurd ⟨rfl, husable, Reply.response?_eq_some_iff.mp hresponse⟩ (h status (some bs))

/-- One response begins, and its body arrives in full or not; or none does. -/
theorem reaches_cases (link : Link) (c : Contact) :
    (∃ status, c.Reaches link status none) ∨ (∃ status bs, c.Reaches link status (some bs)) ∨
      ∀ status body, ¬ c.Reaches link status body := by
  by_cases h : ∃ status body, c.Reaches link status body
  · obtain ⟨status, body | bs, h⟩ := h
    · exact .inl ⟨status, h⟩
    · exact .inr (.inl ⟨status, bs, h⟩)
  · exact .inr (.inr fun status body hr => h ⟨status, body, hr⟩)

/-! ## Stages -/

theorem not_reaches_iff : (∀ status body, ¬ c.Reaches link status body) ↔
    c.isUnusable = true ∨ link = .down ∨ ∀ status body, ¬ c.reply.Begins status body := by
  constructor
  · intro h
    by_contra hreach
    simp only [not_or, not_forall, not_not, Bool.not_eq_true] at hreach
    obtain ⟨husable, hup, status, body, hbegins⟩ := hreach
    have hlink : link = .up := by cases link <;> simp_all
    exact h status body ⟨hlink, husable, hbegins⟩
  · rintro h status body ⟨hup, husable, hbegins⟩
    rcases h with h | h | h
    · exact absurd (h.symm.trans husable) nofun
    · exact absurd (h.symm.trans hup) nofun
    · exact h status body hbegins

theorem stage_eq_connect_iff : (∃ e, c.fetch link = .error e ∧ e.stage = .connect) ↔
    ∀ status body, ¬ c.Reaches link status body := by
  constructor
  · rintro ⟨e, he, hstage⟩ status body h
    cases body with
    | none =>
      cases (fetch_of_cut h).symm.trans he
      cases hstage
    | some bs =>
      obtain ⟨f, -, rfl⟩ := mapError_eq_error_iff.mp ((fetch_of_whole h).symm.trans he)
      cases hstage
  · intro h
    obtain ⟨fault, hfetch, hstage⟩ := fetch_of_not_reaches h
    exact ⟨_, hfetch, hstage⟩

theorem stage_eq_body_iff : (∃ e, c.fetch link = .error e ∧ e.stage = .body) ↔
    ∃ status, c.Reaches link status none := by
  constructor
  · rintro ⟨e, he, hstage⟩
    rcases reaches_cases link c with h | ⟨status, bs, h⟩ | h
    · exact h
    · obtain ⟨f, -, rfl⟩ := mapError_eq_error_iff.mp ((fetch_of_whole h).symm.trans he)
      cases hstage
    · obtain ⟨fault, hfetch, hconnect⟩ := fetch_of_not_reaches h
      cases hfetch.symm.trans he
      cases hconnect.symm.trans hstage
  · rintro ⟨status, h⟩
    exact ⟨_, fetch_of_cut h, rfl⟩

theorem fetch_eq_ok_iff {r : Record} : c.fetch link = .ok r ↔
    ∃ status bs, c.Reaches link status (some bs) ∧ Record.ofBytes bs = .ok r := by
  constructor
  · intro hr
    rcases reaches_cases link c with ⟨status, h⟩ | ⟨status, bs, h⟩ | h
    · cases (fetch_of_cut h).symm.trans hr
    · exact ⟨status, bs, h, mapError_eq_ok_iff.mp ((fetch_of_whole h).symm.trans hr)⟩
    · obtain ⟨fault, hfetch, -⟩ := fetch_of_not_reaches h
      cases hfetch.symm.trans hr
  · rintro ⟨status, bs, h, hr⟩
    rw [fetch_of_whole h, hr]
    rfl

theorem stage_eq_decode_iff {e : FetchError} : (c.fetch link = .error e ∧ e.stage = .decode) ↔
    ∃ status bs f, c.Reaches link status (some bs) ∧ Record.ofBytes bs = .error f ∧
      e = ⟨c.address, .undecodable status f⟩ := by
  constructor
  · rintro ⟨he, hstage⟩
    rcases reaches_cases link c with ⟨status, h⟩ | ⟨status, bs, h⟩ | h
    · cases (fetch_of_cut h).symm.trans he
      cases hstage
    · obtain ⟨f, hf, rfl⟩ := mapError_eq_error_iff.mp ((fetch_of_whole h).symm.trans he)
      exact ⟨status, bs, f, h, hf, rfl⟩
    · obtain ⟨fault, hfetch, hconnect⟩ := fetch_of_not_reaches h
      cases hfetch.symm.trans he
      cases hconnect.symm.trans hstage
  · rintro ⟨status, bs, f, h, hf, rfl⟩
    rw [fetch_of_whole h, hf]
    exact ⟨rfl, rfl⟩

/-- Of two responses with a body, and with the same one, the second comes to what the first does, with
its own status in a failure to decode. -/
theorem fetch_withStatus (link : Link) (address : String) (bs : List UInt8) {status status' : Nat}
    (hfinal : isFinal status) (hfinal' : isFinal status') (hbody : carriesBody status)
    (hbody' : carriesBody status') :
    (fetch link ⟨address, .complete status bs⟩).mapError (·.withStatus status') =
      fetch link ⟨address, .complete status' bs⟩ := by
  simp only [fetch, Reply.response?, hfinal, hfinal', hbody, hbody', if_true]
  cases Network.Url.ofAddress? address with
  | none => rfl
  | some url =>
    dsimp only
    split_ifs
    · rfl
    · cases link with
      | down => rfl
      | up =>
        dsimp only
        cases Record.ofBytes bs <;> rfl

end Contact

end StarSurvey
