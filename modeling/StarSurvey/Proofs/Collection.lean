import Mathlib.Data.List.Perm.Basic
import StarSurvey.Collection
import StarSurvey.Proofs.Partial

/-!
# Every entry of a collection is accounted for

- **Contacts** (`map_address_contacts`, `contacts_map_address`): a list of addresses gives one
  contact for each entry, and every assignment of replies to entries occurs.
- **Arrival** (`arrivals_perm`): if of each contact one outcome comes in, then what comes in is a
  rearrangement of the outcomes of all contacts. The orders of a `Network` are of this kind
  (`arrivalOrder_perm`).
- **Taking in** (`gather_eq`, `collectFrom_eq`): records and failures are the two kinds of outcomes
  in the order of their arrival, and the observer has seen all of them in that order.
- **The account** (`collectFrom_accounts_for_every_entry`): the three together, for every list of
  entries, every reply to each, every bound that can be counted and every order.
-/

namespace StarSurvey

/-- The record of an outcome, if the fetch gave one. -/
def Outcome.record? (o : Outcome) : Option Record := o.result.toOption

/-- The failure of an outcome, if the fetch failed. -/
def Outcome.failure? (o : Outcome) : Option FetchError :=
  match o.result with
  | .ok _ => none
  | .error e => some e

@[simp] theorem Outcome.record?_ok (a : String) (r : Record) :
    Outcome.record? ⟨a, .ok r⟩ = some r := rfl

@[simp] theorem Outcome.record?_error (a : String) (e : FetchError) :
    Outcome.record? ⟨a, .error e⟩ = none := rfl

@[simp] theorem Outcome.failure?_ok (a : String) (r : Record) :
    Outcome.failure? ⟨a, .ok r⟩ = none := rfl

@[simp] theorem Outcome.failure?_error (a : String) (e : FetchError) :
    Outcome.failure? ⟨a, .error e⟩ = some e := rfl

/-- An outcome is a record or a failure and never both. -/
theorem length_records_add_failures (outcomes : List Outcome) :
    (outcomes.filterMap Outcome.record?).length + (outcomes.filterMap Outcome.failure?).length =
      outcomes.length := by
  induction outcomes with
  | nil => rfl
  | cons o os ih =>
    obtain ⟨a, r⟩ := o
    cases r with
    | ok r =>
      simp only [List.filterMap_cons, Outcome.record?_ok, Outcome.failure?_ok, List.length_cons]
      omega
    | error e =>
      simp only [List.filterMap_cons, Outcome.record?_error, Outcome.failure?_error,
        List.length_cons]
      omega

/-! ## Contacts -/

namespace Network

/-- There is one contact for each entry, in the order of the entries. -/
theorem map_address_contacts (nodes : List Contact) (addresses : List String) :
    (contacts nodes addresses).map Contact.address = addresses := by
  induction addresses generalizing nodes with
  | nil => rfl
  | cons a rest ih =>
    simp only [contacts]
    split
    · rename_i c hc
      have ha : c.address = a := by simpa using List.find?_some hc
      rw [List.map_cons, ih, ha]
    · rw [List.map_cons, ih]

/-- Every assignment of replies to entries occurs: nodes that stand in the order of the entries
answer them one by one. -/
theorem contacts_map_address (cs : List Contact) : contacts cs (cs.map Contact.address) = cs := by
  induction cs with
  | nil => rfl
  | cons c cs ih => simp [contacts, ih]

/-- A link that is down fails all in the order of the list, and one that is up puts the unusable
addresses in front. Neither loses or repeats a place. -/
theorem arrivalOrder_perm {n : Network} {cs : List Contact}
    (h : n.order.Perm (List.range cs.length)) (limit : Option Nat) :
    (n.arrivalOrder limit cs).Perm (List.range cs.length) := by
  unfold arrivalOrder
  cases n.link with
  | down => exact .refl _
  | up =>
    simp only
    split
    · exact h
    · exact ((h.filter _).append_left _).trans (List.filter_append_perm _ _)

end Network

/-! ## Arrival -/

/-- A failure carries the address of its fetch. -/
theorem Contact.address_of_fetch_error {link : Link} {c : Contact} {e : FetchError}
    (h : c.fetch link = .error e) : e.address = c.address := by
  unfold Contact.fetch at h
  split at h
  · cases h; rfl
  · split at h
    · cases h; rfl
    · split at h
      · cases h; rfl
      · cases h; rfl
      · cases h; rfl
      · rename_i status body _
        cases hr : Record.ofBytes body with
        | ok r => rw [hr] at h; cases h
        | error f => rw [hr] at h; cases h; rfl

theorem Contact.record?_outcome {link : Link} {c : Contact} {r : Record} :
    (c.outcome link).record? = some r ↔ c.fetch link = .ok r := by
  unfold Contact.outcome Outcome.record?
  cases c.fetch link with
  | ok s => simp [Except.toOption]
  | error e => simp [Except.toOption]

namespace Collection

/-- Taken in the order of the list, the places give the outcomes of all contacts. -/
theorem arrivals_range (link : Link) (cs : List Contact) :
    arrivals link cs (List.range cs.length) = cs.map (Contact.outcome link) := by
  induction cs with
  | nil => rfl
  | cons c cs ih =>
    unfold arrivals at ih ⊢
    rw [List.length_cons, List.range_succ_eq_map, List.filterMap_cons, List.filterMap_map,
      List.map_cons, ← ih]
    rfl

/-- If each place comes once, what comes in is a rearrangement of the outcomes of all contacts. -/
theorem arrivals_perm (link : Link) {cs : List Contact} {order : List Nat}
    (h : order.Perm (List.range cs.length)) :
    (arrivals link cs order).Perm (cs.map (Contact.outcome link)) := by
  rw [← arrivals_range link cs]
  exact h.filterMap _

/-! ## Taking in -/

theorem gather_cons {σ : Type} (observe : σ → Outcome → σ) (s : σ) (c : Collection) (o : Outcome)
    (os : List Outcome) :
    gather observe s c (o :: os) = gather observe (observe s o) (c.add o) os := rfl

/-- The observer sees the outcomes one by one, and they are kept by kind. -/
theorem gather_eq {σ : Type} (observe : σ → Outcome → σ) (s : σ) (c : Collection)
    (outcomes : List Outcome) :
    gather observe s c outcomes =
      (outcomes.foldl observe s,
        ⟨c.requested, c.records ++ outcomes.filterMap Outcome.record?,
          c.failures ++ outcomes.filterMap Outcome.failure?⟩) := by
  induction outcomes generalizing s c with
  | nil => simp [gather]
  | cons o os ih =>
    rw [gather_cons, ih]
    obtain ⟨a, r⟩ := o
    cases r with
    | ok r => simp [add, List.filterMap_cons]
    | error e => simp [add, List.filterMap_cons]

/-- A bound of none is no bound, so it is never beyond what can be counted. -/
theorem not_uncountable {limit : Option Nat} (h : ∀ n, limit = some n → n ≤ maxPermits) :
    ¬ maxPermits < (bound limit).getD 0 := by
  cases limit with
  | none => simp [bound]
  | some n =>
    have hn := h n rfl
    rw [bound, Option.filter_some]
    split
    · simpa using hn
    · simp

variable {arrival : Arrival} (hc : arrival.Complete) (link : Link) (cs : List Contact)
  (limit : Option Nat)

include hc in
theorem outcomes_perm : (outcomes arrival link cs limit).Perm (cs.map (Contact.outcome link)) :=
  arrivals_perm link (hc _ _)

include hc in
theorem length_outcomes : (outcomes arrival link cs limit).length = cs.length := by
  rw [(outcomes_perm hc link cs limit).length_eq, List.length_map]

include hc in
/-- What is collected, whether any record is there or not. -/
theorem collectFrom_eq {σ : Type} {limit : Option Nat}
    (hl : ∀ n, limit = some n → n ≤ maxPermits) (observe : σ → Outcome → σ) (s : σ) :
    collectFrom arrival link cs limit observe s =
      ((outcomes arrival link cs limit).foldl observe s,
        if (outcomes arrival link cs limit).filterMap Outcome.record? = [] then
          .error (.noRecords cs.length cs.length)
        else .ok ⟨cs.length, (outcomes arrival link cs limit).filterMap Outcome.record?,
          (outcomes arrival link cs limit).filterMap Outcome.failure?⟩) := by
  have hlen := length_outcomes hc link cs limit
  have hsum := length_records_add_failures (outcomes arrival link cs limit)
  unfold collectFrom
  split
  · -- Of no contacts nothing comes in.
    rename_i he
    obtain rfl : cs = [] := by simpa using he
    have hnil : outcomes arrival link [] limit = [] := List.eq_nil_of_length_eq_zero hlen
    rw [hnil]
    rfl
  · rw [if_neg (not_uncountable hl)]
    simp only [gather_eq, empty, List.nil_append, List.isEmpty_iff]
    split
    · -- Without a record all outcomes are failures.
      rename_i hr
      have hf : ((outcomes arrival link cs limit).filterMap Outcome.failure?).length = cs.length := by
        simpa [hr, hlen] using hsum
      rw [← hf]
    · rfl

include hc in
/-- A record is collected if and only if one of the fetches gives a record. -/
theorem records_ne_nil_iff :
    (outcomes arrival link cs limit).filterMap Outcome.record? ≠ [] ↔
      ∃ c ∈ cs, ∃ r, c.fetch link = .ok r := by
  have hp := outcomes_perm hc link cs limit
  constructor
  · intro hne
    obtain ⟨r, hr⟩ := List.exists_mem_of_ne_nil _ hne
    obtain ⟨o, ho, hor⟩ := List.mem_filterMap.mp hr
    obtain ⟨c, hcs, rfl⟩ := List.mem_map.mp (hp.mem_iff.mp ho)
    exact ⟨c, hcs, r, Contact.record?_outcome.mp hor⟩
  · rintro ⟨c, hcs, r, hr⟩
    have ho := hp.mem_iff.mpr (List.mem_map_of_mem hcs)
    exact List.ne_nil_of_mem (List.mem_filterMap.mpr ⟨_, ho, Contact.record?_outcome.mpr hr⟩)

/-- **The account.** Each contact is an entry of the list of addresses with the reply that its
fetch gets. What comes in is one outcome for each entry, in some order, and a failure carries the
address of its fetch. The observer sees all of it in that order. If a fetch gave a record, then the
collection has the records and the failures in that order, as many as there are entries; else all
entries are counted as failed. -/
theorem collectFrom_accounts_for_every_entry {σ : Type} (arrival : Arrival)
    (hc : arrival.Complete) (link : Link) (cs : List Contact) (limit : Option Nat)
    (hl : ∀ n, limit = some n → n ≤ maxPermits) (observe : σ → Outcome → σ) (s : σ) :
    let came := outcomes arrival link cs limit
    let records := came.filterMap Outcome.record?
    let failures := came.filterMap Outcome.failure?
    came.Perm (cs.map (Contact.outcome link)) ∧
    (∀ o ∈ came, ∀ e, o.result = .error e → e.address = o.address) ∧
    records.length + failures.length = cs.length ∧
    (collectFrom arrival link cs limit observe s).1 = came.foldl observe s ∧
    ((∃ c ∈ cs, ∃ r, c.fetch link = .ok r) →
      (collectFrom arrival link cs limit observe s).2 = .ok ⟨cs.length, records, failures⟩) ∧
    ((¬ ∃ c ∈ cs, ∃ r, c.fetch link = .ok r) →
      (collectFrom arrival link cs limit observe s).2 = .error (.noRecords cs.length cs.length)) := by
  intro came records failures
  have hp : came.Perm (cs.map (Contact.outcome link)) := outcomes_perm hc link cs limit
  have he := collectFrom_eq hc link cs hl observe s
  have hr := records_ne_nil_iff hc link cs limit
  refine ⟨hp, ?_, ?_, ?_, ?_, ?_⟩
  · intro o ho e hoe
    obtain ⟨c, -, rfl⟩ := List.mem_map.mp (hp.mem_iff.mp ho)
    exact Contact.address_of_fetch_error hoe
  · rw [length_records_add_failures, hp.length_eq, List.length_map]
  · rw [he]
  · intro hs
    rw [he]
    exact if_neg (hr.mpr hs)
  · intro hs
    rw [he]
    exact if_pos (not_not.mp (mt hr.mp hs))

/-- Two entries of the same address, of which the second answers with a record and arrives first. -/
theorem collectFrom_accounts_for_a_repeated_address :
    let body := Text.bytes "[\"Sol\",[\"G\",\"\"],[0,1.5,-2e1],\"2024-03-01T12:30:60Z\"]"
    let cs : List Contact := [⟨"a:1", .dropped⟩, ⟨"a:1", .complete 500 body⟩]
    let arrival : Arrival := fun _ cs => (List.range cs.length).reverse
    let came := outcomes arrival .up cs (some 1)
    arrival.Complete ∧ (∀ n, some 1 = some n → n ≤ maxPermits) ∧
    (∃ c ∈ cs, ∃ r, c.fetch .up = .ok r) ∧
    (collectFrom arrival .up cs (some 1) (fun seen o => seen ++ [o.address]) []).2 =
      .ok ⟨2, came.filterMap Outcome.record?, came.filterMap Outcome.failure?⟩ := by
  intro body cs arrival came
  have hc : arrival.Complete := fun _ cs => List.reverse_perm _
  have hl : ∀ n, some 1 = some n → n ≤ maxPermits := by
    rintro n ⟨⟩
    decide
  have hs : ∃ c ∈ cs, ∃ r, c.fetch .up = .ok r := by
    have hb : ((⟨"a:1", .complete 500 body⟩ : Contact).fetch .up).isOk = true := by decide +kernel
    exact ⟨_, List.mem_cons_of_mem _ List.mem_cons_self, exists_eq_ok_of_isOk hb⟩
  exact ⟨hc, hl, hs,
    (collectFrom_accounts_for_every_entry arrival hc .up cs (some 1) hl _ []).2.2.2.2.1 hs⟩

end Collection

end StarSurvey
