import Mathlib.Data.List.Perm.Subperm
import Mathlib.Data.List.TakeWhile
import Mathlib.Data.String.Basic
import StarSurvey.Proofs.FanOut
import StarSurvey.Proofs.Survey

/-!
# The requests of a survey

- **What is asked for** (`Network.Url.requested?`): the URL of an address, as the client puts it into
  a request. An address that has none fails at the first stage, whatever its node would answer
  (`Contact.exists_fetch_eq_error`).
- **Turning to the nodes** (`FanOut.History.nodup_and_mem_iff`): in a run of the fan-out no task turns
  to its node twice, and those that have are the ones that wait no more. At the end all have
  (`FanOut.History.turned_perm`).
- **The requests** (`runFrom_asks_each_entry_once`): so each entry is asked once and for its own URL,
  whatever is answered, and an entry that cannot be asked does nothing to the others.
- **What cannot be asked for** (`runFrom_asks_for_no_unsendable`): there are URLs that fit into no
  request, such as one with a long query (`Network.Url.exists_of_long_query`).
-/

namespace StarSurvey

/-! ## What is asked for -/

namespace Network.Url

/-- What is requested of the node at an address: the text of its URL, if the address makes one and
a request can carry it. -/
def requested? (address : String) : Option String := do
  let url ← ofAddress? address
  if url.isSendable then some url.requestText else none

theorem requested?_eq_none_iff {address : String} :
    requested? address = none ↔ ∀ url, ofAddress? address = some url → url.isSendable = false := by
  unfold requested?
  cases ofAddress? address with
  | none => simp
  | some url => simp

end Network.Url

open Network (Url)

/-- A request as a node reads it: what is to be done, the URL and who asks. -/
def Request.line (q : Request) : String × String × String := (Request.method, q.url, q.userAgent)

theorem Contact.request?_eq (userAgent : String) (c : Contact) :
    c.request? userAgent = (Url.requested? c.address).map (⟨·, userAgent⟩) := by
  unfold Contact.request? Url.requested?
  cases hurl : Url.ofAddress? c.address with
  | none => rfl
  | some url => cases hs : url.isSendable <;> simp [hs]

/-- An entry that cannot be asked fails before its node has a say in it. -/
theorem Contact.exists_fetch_eq_error {c : Contact} (h : Url.requested? c.address = none) :
    ∃ e : FetchError, e.address = c.address ∧ e.stage = .connect ∧
      ∀ link, c.fetch link = .error e := by
  unfold Contact.fetch
  cases hurl : Url.ofAddress? c.address with
  | none => exact ⟨⟨c.address, .invalidUrl⟩, rfl, rfl, fun _ => rfl⟩
  | some url =>
    have hs := Url.requested?_eq_none_iff.mp h url hurl
    exact ⟨⟨c.address, .unsendable url.text⟩, rfl, rfl, fun _ => by simp [hs]⟩

/-- On a link that is up there is one request for each entry that can be asked. -/
theorem requests_up (userAgent : String) (cs : List Contact) :
    requests .up userAgent cs =
      ((cs.map Contact.address).filterMap Url.requested?).map (⟨·, userAgent⟩) := by
  rw [requests, List.filterMap_map, List.map_filterMap]
  exact List.filterMap_congr fun c _ => c.request?_eq userAgent

theorem count_requests_up (userAgent : String) (cs : List Contact) (url : String) :
    (requests .up userAgent cs).count ⟨url, userAgent⟩ =
      cs.countP fun c => Url.requested? c.address = some url := by
  rw [requests, List.count_filterMap]
  refine List.countP_congr fun c _ => ?_
  rw [c.request?_eq userAgent]
  simp

/-- An entry that cannot be asked leaves the requests of the others as they are. -/
theorem requests_append_cons {c : Contact} (h : Url.requested? c.address = none) (link : Link)
    (userAgent : String) (before after : List Contact) :
    requests link userAgent (before ++ c :: after) = requests link userAgent (before ++ after) := by
  cases link with
  | down => rfl
  | up =>
    have hc : c.request? userAgent = none := by rw [c.request?_eq, h, Option.map_none]
    simp only [requests, List.filterMap_append, List.filterMap_cons, hc]

/-! ## Turning to the nodes -/

namespace FanOut

variable {requested : Nat} {limit : Option Nat} {s t : FanOut} {turned : List Nat}

theorem mem_turning {i : Nat} :
    i ∈ turning s t ↔ t.tasks[i]? = some .fetching ∧ s.tasks[i]? ≠ some .fetching := by
  simp only [turning, List.mem_filter, List.mem_range, decide_eq_true_eq, and_iff_right_iff_imp]
  rintro ⟨hi, -⟩
  exact (List.getElem?_eq_some_iff.mp hi).1

theorem nodup_turning (s t : FanOut) : (turning s t).Nodup := List.nodup_range.filter _

/-- What a step does to the tasks: nothing; or one more is launched; or one that waits turns to its
node; or one that has turned to its node goes on and never back. -/
theorem Step.tasks_cases (h : Step s t) :
    t.tasks = s.tasks ∨ t.tasks = s.tasks ++ [.waiting] ∨
    (∃ i, s.tasks[i]? = some .waiting ∧ t.tasks = s.tasks.set i .fetching) ∨
    ∃ i p q, s.tasks[i]? = some p ∧ p.hasTurned = true ∧ q.hasTurned = true ∧ q ≠ .fetching ∧
      t.tasks = s.tasks.set i q := by
  cases h with
  | launch _ _ => exact .inr (.inl rfl)
  | close _ _ => exact .inl rfl
  | fetch i hi _ => exact .inr (.inr (.inl ⟨i, hi, rfl⟩))
  | answer i hi => exact .inr (.inr (.inr ⟨i, _, .sending false, hi, rfl, rfl, nofun, rfl⟩))
  | deliver i hi _ => exact .inr (.inr (.inr ⟨i, _, .sending true, hi, rfl, rfl, nofun, rfl⟩))
  | finish i hi => exact .inr (.inr (.inr ⟨i, _, .done, hi, rfl, rfl, nofun, rfl⟩))
  | receive _ _ _ _ _ => exact .inl rfl
  | stop _ _ _ _ => exact .inl rfl

/-- Those who have turned to their nodes behind a step are those who had in front of it and those
who turn in it, and nobody is both. -/
theorem Step.hasTurned_iff (h : Step s t) (i : Nat) :
    (InPhase Phase.hasTurned t.tasks i ↔ InPhase Phase.hasTurned s.tasks i ∨ i ∈ turning s t) ∧
      (i ∈ turning s t → ¬ InPhase Phase.hasTurned s.tasks i) := by
  rw [mem_turning]
  rcases h.tasks_cases with ht | ht | ⟨j, hj, ht⟩ | ⟨j, p, q, hj, hp, hq, hqf, ht⟩
  · rw [ht]
    exact ⟨by simp, fun hi => absurd hi.1 hi.2⟩
  · -- the new task waits, so it is not among those who turn
    have hnot : ¬ (t.tasks[i]? = some .fetching ∧ s.tasks[i]? ≠ some .fetching) := by
      rw [ht]
      rintro ⟨hi, hni⟩
      rcases Nat.lt_or_ge i s.tasks.length with hlt | hge
      · exact hni (by rwa [List.getElem?_append_left hlt] at hi)
      · rw [List.getElem?_append_right hge, List.getElem?_singleton] at hi
        split at hi <;> cases hi
    exact ⟨by rw [ht, inPhase_append_waiting rfl]; simp [← ht, hnot], fun hi => absurd hi hnot⟩
  · have hlt := (List.getElem?_eq_some_iff.mp hj).1
    rw [ht, inPhase_set Phase.hasTurned hj]
    by_cases hij : i = j
    · subst hij
      rw [List.getElem?_set_self hlt, hj]
      simp [InPhase, hj, Phase.hasTurned]
    · rw [List.getElem?_set_ne (Ne.symm hij)]
      exact ⟨by simp [hij], fun hi => absurd hi.1 hi.2⟩
  · have hlt := (List.getElem?_eq_some_iff.mp hj).1
    rw [ht, inPhase_set_of_eq hj (hq.trans hp.symm)]
    by_cases hij : i = j
    · subst hij
      simp [hlt, hqf]
    · rw [List.getElem?_set_ne (Ne.symm hij)]
      exact ⟨by simp, fun hi => absurd hi.1 hi.2⟩

theorem History.reachable (h : History requested limit s turned) : Reachable requested limit s := by
  induction h with
  | start => exact .start
  | step _ hst ih => exact ih.step hst

/-- Every run has its history. -/
theorem Reachable.exists_history (h : Reachable requested limit s) :
    ∃ turned, History requested limit s turned := by
  induction h with
  | start => exact ⟨_, .start⟩
  | step _ hst ih =>
    obtain ⟨turned, ih⟩ := ih
    exact ⟨_, ih.step hst⟩

/-- **Once.** No task turns to its node twice, and those that have turned are those that wait no
more. -/
theorem History.nodup_and_mem_iff (h : History requested limit s turned) :
    turned.Nodup ∧ ∀ i, i ∈ turned ↔ InPhase Phase.hasTurned s.tasks i := by
  induction h with
  | start => exact ⟨List.nodup_nil, by simp [FanOut.start, InPhase]⟩
  | @step s t turned _ hst ih =>
    obtain ⟨hnodup, hmem⟩ := ih
    refine ⟨hnodup.append (nodup_turning s t) fun i hi hnew => ?_, fun i => ?_⟩
    · exact (hst.hasTurned_iff i).2 hnew ((hmem i).mp hi)
    · rw [List.mem_append, hmem i, (hst.hasTurned_iff i).1]

/-- Only entries of the list have tasks that turn to their nodes. -/
theorem History.subperm_range (h : History requested limit s turned) :
    turned.Subperm (List.range requested) := by
  obtain ⟨hnodup, hmem⟩ := h.nodup_and_mem_iff
  refine hnodup.subperm fun i hi => ?_
  obtain ⟨p, hp, -⟩ := (hmem i).mp hi
  have hlt := (List.getElem?_eq_some_iff.mp hp).1
  have hb := h.reachable.inv.bounded
  rw [h.reachable.inv.size] at hb
  exact List.mem_range.mpr (by omega)

/-- Once the receiver has stopped, every task has turned to its node. -/
theorem History.turned_perm (h : History requested limit s turned) (hs : s.stopped = true) :
    turned.Perm (List.range requested) := by
  obtain ⟨hnodup, hmem⟩ := h.nodup_and_mem_iff
  refine (List.perm_ext_iff_of_nodup hnodup List.nodup_range).mpr fun i => ?_
  rw [hmem i, h.reachable.inv.tasks_eq hs, List.mem_range]
  simp [InPhase, List.getElem?_replicate, Phase.hasTurned]

/-- In the order of the list, the tasks send the requests of all entries. -/
theorem sent_range (userAgent : String) (cs : List Contact) :
    sent userAgent cs (List.range cs.length) = requests .up userAgent cs := by
  induction cs with
  | nil => rfl
  | cons c cs ih =>
    simp only [sent, requests] at ih ⊢
    rw [List.length_cons, List.range_succ_eq_map, List.filterMap_cons, List.filterMap_map,
      List.filterMap_cons, ← ih]
    rfl

/-- At every moment of a run the requests that went out are some of those of all entries, and at
its end they are all. -/
theorem History.sent_subperm {cs : List Contact} (h : History cs.length limit s turned)
    (userAgent : String) :
    (sent userAgent cs turned).Subperm (requests .up userAgent cs) ∧
      (s.stopped = true → (sent userAgent cs turned).Perm (requests .up userAgent cs)) := by
  rw [← sent_range]
  constructor
  · obtain ⟨front, hperm, hsub⟩ := h.subperm_range
    exact ⟨_, hperm.filterMap _, hsub.filterMap _⟩
  · exact fun hs => (h.turned_perm hs).filterMap _

end FanOut

/-! ## The requests -/

open scoped List in
/-- An entry that cannot be asked adds its failure to what comes in, and changes nothing else. -/
theorem Collection.outcomes_append_cons {arrival : Arrival} (hc : arrival.Complete) (link : Link)
    {c : Contact} {e : FetchError} (he : c.fetch link = .error e) (before after : List Contact)
    (limit : Option Nat) :
    (outcomes arrival link (before ++ c :: after) limit).Perm
      (⟨c.address, .error e⟩ :: outcomes arrival link (before ++ after) limit) := by
  have hout : c.outcome link = ⟨c.address, .error e⟩ := by rw [Contact.outcome, he]
  have hrest := (outcomes_perm hc link (before ++ after) limit).symm
  calc outcomes arrival link (before ++ c :: after) limit
    _ ~ (before ++ c :: after).map (Contact.outcome link) := outcomes_perm hc link _ limit
    _ ~ (c :: (before ++ after)).map (Contact.outcome link) := List.perm_middle.map _
    _ = ⟨c.address, .error e⟩ :: (before ++ after).map (Contact.outcome link) := by
        rw [List.map_cons, hout]
    _ ~ ⟨c.address, .error e⟩ :: outcomes arrival link (before ++ after) limit := hrest.cons _

namespace Survey

/-- With a client or without, an entry that cannot be asked leaves the requests as they are. -/
theorem requests_runFrom_append_cons {σ : Type} {arrival : Arrival} (hc : arrival.Complete)
    {s : Settings} (hl : ∀ n, s.maxInFlight = some n → n ≤ maxPermits) (tree : FileTree)
    (observe : σ → Outcome → σ) (start : σ) {c : Contact} (hn : Url.requested? c.address = none)
    (before after : List Contact) :
    (runFrom arrival .up (before ++ c :: after) s tree observe start).requests =
      (runFrom arrival .up (before ++ after) s tree observe start).requests := by
  rw [requests_runFrom hc hl, requests_runFrom hc hl, requests_append_cons hn]

end Survey

/-! ## What cannot be asked for -/

namespace Network.Url

/-- A character that stands in a query as it is. -/
def IsPlain (c : Char) : Prop := 0x20 ≤ c.toNat ∧ c.toNat < 0x7F ∧ c ∉ querySpecials

instance : DecidablePred IsPlain := fun _ => inferInstanceAs (Decidable (_ ∧ _ ∧ _))

theorem IsPlain.isIgnored {c : Char} (h : IsPlain c) : isIgnored c = false := by
  have hne {d : Char} (hd : d.toNat < 0x20) : c ≠ d := by
    rintro rfl
    exact absurd h.1 (by omega)
  simp [Url.isIgnored, hne]

theorem IsPlain.ne_numberSign {c : Char} (h : IsPlain c) : c ≠ '#' := by
  rintro rfl
  exact h.2.2 (by decide)

theorem escape_of_plain {cs : List Char} (h : ∀ c ∈ cs, IsPlain c) :
    escape querySpecials cs = String.ofList cs := by
  unfold escape
  congr 1
  induction cs with
  | nil => rfl
  | cons c cs ih =>
    obtain ⟨hlow, hhigh, hspecial⟩ := h c List.mem_cons_self
    have hkept : ¬ (c.toNat < 0x20 ∨ 0x7F ≤ c.toNat ∨ c ∈ querySpecials) := by
      simp [hlow, hhigh, hspecial]
    rw [List.flatMap_cons, ih fun d hd => h d (List.mem_cons_of_mem c hd), if_neg hkept]
    rfl

theorem isPlain_systemPath : ∀ c ∈ systemPath.toList, IsPlain c := by
  have h : systemPath.toList.all IsPlain = true := by decide
  exact fun c hc => of_decide_eq_true (List.all_eq_true.mp h c hc)

theorem behind?_eq_none {mark : Char} {cs : List Char} (h : ∀ c ∈ cs, c ≠ mark) :
    behind? mark cs = none := by
  rw [behind?, List.dropWhile_eq_nil_iff.mpr fun c hc => by simpa using h c hc]

/-- What stands behind a question mark is the query, the path of the system included. -/
theorem ofAddress?_of_query {q : List Char} (h : ∀ c ∈ q, IsPlain c) :
    ofAddress? ("a?" ++ String.ofList q) =
      some ⟨.domain "a", none, [""], some (String.ofList q ++ systemPath), none⟩ := by
  have hall : ∀ c ∈ q ++ systemPath.toList, IsPlain c := by
    intro c hc
    rcases List.mem_append.mp hc with hc | hc
    · exact h c hc
    · exact isPlain_systemPath c hc
  let rest := '?' :: (q ++ systemPath.toList)
  have htext : ("a?" ++ String.ofList q ++ systemPath).toList = 'a' :: rest := by simp [rest]
  have hrest : ∀ c ∈ rest, isIgnored c = false ∧ c ≠ '#' := by
    intro c hc
    rcases List.mem_cons.mp hc with rfl | hc
    · decide
    · exact ⟨(hall c hc).isIgnored, (hall c hc).ne_numberSign⟩
  have hkept : ('a' :: rest).filter (fun c => !isIgnored c) = 'a' :: rest := by
    refine List.filter_eq_self.mpr fun c hc => ?_
    rcases List.mem_cons.mp hc with rfl | hc
    · rfl
    · simp [(hrest c hc).1]
  have hstart : ('a' :: rest).dropWhile isSlash = 'a' :: rest := rfl
  have hname : ('a' :: rest).takeWhile (fun c => !endsAuthority c) = ['a'] := rfl
  have hbehind : ('a' :: rest).dropWhile (fun c => !endsAuthority c) = rest := rfl
  have hparts : splitPort false (behindAt ['a']) = (['a'], []) := by decide
  have hhost : host? ['a'] = some (.domain "a") := by decide +kernel
  have hport : port? [] = some none := rfl
  -- nothing behind the question mark is a number sign, so all of it belongs to the query
  have hfragment : behind? '#' rest = none := behind?_eq_none fun c hc => (hrest c hc).2
  have hwhole : rest.takeWhile (· ≠ '#') = rest :=
    List.takeWhile_eq_self_iff.mpr fun c hc => by simpa using (hrest c hc).2
  have hquery : behind? '?' rest = some (q ++ systemPath.toList) := rfl
  have hpath : pathOf ((rest.takeWhile (· ≠ '?')).drop 1) = [""] := by
    rw [show rest.takeWhile (· ≠ '?') = [] from rfl]
    decide +kernel
  unfold ofAddress?
  simp only [htext, hkept, hstart, hname, hbehind, hparts, hhost, hport, hfragment, hwhole, hquery,
    hpath, Option.map_some, Option.map_none, escape_of_plain hall, String.ofList_append,
    String.ofList_toList]
  rfl

theorem length_le_utf8ByteSize (cs : List Char) : cs.length ≤ (String.ofList cs).utf8ByteSize := by
  rw [String.utf8ByteSize_ofList]
  induction cs with
  | nil => exact Nat.zero_le _
  | cons c cs ih =>
    have hc := c.utf8Size_pos
    rw [List.length_cons, String.utf8Len_cons]
    omega

/-- A query can be too long for a request. -/
theorem exists_of_long_query {q : List Char} (h : ∀ c ∈ q, IsPlain c) (hlong : maxLength < q.length) :
    ∃ url, ofAddress? ("a?" ++ String.ofList q) = some url ∧ url.isSendable = false := by
  refine ⟨_, ofAddress?_of_query h, ?_⟩
  have hsize := length_le_utf8ByteSize q
  simp only [isSendable, text, requestText, Option.map_some, Option.getD_some,
    String.utf8ByteSize_append, Bool.and_eq_false_iff, decide_eq_false_iff_not]
  omega

end Network.Url

namespace Survey

/-- A survey does not ask for all URLs: of those that fit into no request it asks for none. -/
theorem runFrom_asks_for_no_unsendable {σ : Type} {arrival : Arrival} (hc : arrival.Complete)
    {s : Settings} (hl : ∀ n, s.maxInFlight = some n → n ≤ maxPermits) {addresses : List String}
    (hurls : ∀ a ∈ addresses, ∃ url, Url.ofAddress? a = some url ∧ url.isSendable = false)
    (hne : addresses ≠ []) (reply : Reply) (tree : FileTree) (observe : σ → Outcome → σ) (start : σ) :
    ¬ ((runFrom arrival .up (addresses.map (⟨·, reply⟩)) s tree observe start).requests.map
        Request.line).Perm
      ((addresses.filterMap Url.ofAddress?).map fun url => ("GET", url.requestText, s.userAgent)) := by
  have hnone : requests .up s.userAgent (addresses.map (⟨·, reply⟩)) = [] := by
    have haddresses : (addresses.map (Contact.mk · reply)).map Contact.address = addresses := by
      rw [List.map_map]
      exact List.map_id addresses
    rw [requests_up, haddresses, List.map_eq_nil_iff, List.filterMap_eq_nil_iff]
    intro a ha
    obtain ⟨url, hurl, hs⟩ := hurls a ha
    refine Url.requested?_eq_none_iff.mpr fun url' hurl' => ?_
    rw [hurl, Option.some.injEq] at hurl'
    rwa [← hurl']
  rw [requests_runFrom hc hl, hnone, ite_self, List.map_nil]
  intro hperm
  have hnil := hperm.symm.eq_nil
  rw [List.map_eq_nil_iff, List.filterMap_eq_nil_iff] at hnil
  obtain ⟨a, ha⟩ := List.exists_mem_of_ne_nil addresses hne
  obtain ⟨url, hurl, -⟩ := hurls a ha
  rw [hnil a ha] at hurl
  cases hurl

end Survey

end StarSurvey
