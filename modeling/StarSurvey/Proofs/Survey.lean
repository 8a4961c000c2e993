import StarSurvey.Proofs.Collection
import StarSurvey.Proofs.FileTree
import StarSurvey.Proofs.Stats
import StarSurvey.Survey

/-!
# What a survey finds, in whatever order

- **One run** (`runFrom_of_noClient`, `runFrom_of_no_record`, `runFrom_of_snapshot`): how a survey
  ends, by what came in.
- **Findings** (`ofCollection?_same`): what is found in a collection does not depend on the order of
  its records and failures, but for the mean distance.
- **Two runs** (`runFrom_same_up_to_order`): so two surveys of the same nodes agree, whatever the
  order in which the outcomes arrive and however many fetches may be under way at once.
-/

namespace StarSurvey

/-! ## One run -/

/-- Of some records there is a snapshot, which has all of them. -/
theorem Snapshot.exists_ofRecords? {records : List Record} (h : records ≠ []) :
    ∃ snapshot, Snapshot.ofRecords? records = some snapshot ∧ snapshot.systems = records ∧
      snapshot.nodeCount = records.length := by
  obtain ⟨r, rs, rfl⟩ := List.exists_cons_of_ne_nil h
  exact ⟨_, rfl, rfl, rfl⟩

namespace Survey

variable {σ : Type} {arrival : Arrival} (hc : arrival.Complete) {link : Link} {cs : List Contact}
  {s : Settings} (hl : ∀ n, s.maxInFlight = some n → n ≤ maxPermits) (tree : FileTree)
  (observe : σ → Outcome → σ) (start : σ)

theorem runFrom_of_noClient (h : isUserAgent s.userAgent = false) :
    runFrom arrival link cs s tree observe start =
      ⟨start, .error (.uncollected .noClient), tree, []⟩ := by
  simp only [runFrom, h, Bool.not_false, if_true]

variable (h : isUserAgent s.userAgent = true)

include hc hl h in
theorem runFrom_of_no_record
    (hr : (Collection.outcomes arrival link cs s.maxInFlight).filterMap Outcome.record? = []) :
    runFrom arrival link cs s tree observe start =
      ⟨(Collection.outcomes arrival link cs s.maxInFlight).foldl observe start,
        .error (.uncollected (.noRecords cs.length cs.length)), tree,
        StarSurvey.requests link s.userAgent cs⟩ := by
  simp only [runFrom, h, Bool.not_true, Bool.false_eq_true, if_false,
    Collection.collectFrom_eq hc link cs hl, if_pos hr, Except.mapError]

include hc hl h in
/-- With a record all hangs on whether the snapshot can be saved. -/
theorem runFrom_of_snapshot {snapshot : Snapshot}
    (hs : Snapshot.ofRecords? ((Collection.outcomes arrival link cs s.maxInFlight).filterMap
      Outcome.record?) = some snapshot) :
    runFrom arrival link cs s tree observe start =
      ⟨(Collection.outcomes arrival link cs s.maxInFlight).foldl observe start,
        match (snapshot.save tree s.output).2 with
        | .error f => .error (.unsaved s.output f)
        | .ok () => .ok ⟨snapshot, Stats.ofRecords ((Collection.outcomes arrival link cs
            s.maxInFlight).filterMap Outcome.record?), ((Collection.outcomes arrival link cs
            s.maxInFlight).filterMap Outcome.failure?).length⟩,
        (snapshot.save tree s.output).1, StarSurvey.requests link s.userAgent cs⟩ := by
  have hr : (Collection.outcomes arrival link cs s.maxInFlight).filterMap Outcome.record? ≠ [] := by
    intro hr
    rw [hr] at hs
    cases hs
  simp only [runFrom, h, Bool.not_true, Bool.false_eq_true, if_false,
    Collection.collectFrom_eq hc link cs hl, if_neg hr, Except.mapError, ofCollection?, hs, bind,
    Option.bind, pure]
  rcases snapshot.save tree s.output with ⟨saved, f | ⟨⟩⟩
  · rfl
  · rfl

include h in
/-- Without a record there is nothing to save. -/
theorem result_of_noRecords {requested failed : Nat}
    (hr : (Collection.collectFrom arrival link cs s.maxInFlight observe start).2 =
      .error (.noRecords requested failed)) :
    (runFrom arrival link cs s tree observe start).result =
      .error (.uncollected (.noRecords requested failed)) := by
  unfold runFrom
  rw [if_neg (by simp [h])]
  rcases hrun : Collection.collectFrom arrival link cs s.maxInFlight observe start with ⟨seen, c⟩
  rw [hrun] at hr
  cases hr
  rfl

include h in
/-- What is found in a collection is the result, if it can be saved. -/
theorem result_of_collected {c : Collection} {f : Survey}
    (hr : (Collection.collectFrom arrival link cs s.maxInFlight observe start).2 = .ok c)
    (hf : ofCollection? c = some f) :
    (runFrom arrival link cs s tree observe start).result =
      match (f.snapshot.save tree s.output).2 with
      | .error fault => .error (.unsaved s.output fault)
      | .ok () => .ok f := by
  unfold runFrom
  rw [if_neg (by simp [h])]
  rcases hrun : Collection.collectFrom arrival link cs s.maxInFlight observe start with ⟨seen, c'⟩
  rw [hrun] at hr
  cases hr
  simp only [Except.mapError, hf]
  rcases f.snapshot.save tree s.output with ⟨saved, fault | ⟨⟩⟩
  · rfl
  · rfl

omit h in
include hc hl in
/-- Once there is a client the requests go out, whatever comes of them. -/
theorem requests_runFrom :
    (runFrom arrival link cs s tree observe start).requests =
      if isUserAgent s.userAgent then StarSurvey.requests link s.userAgent cs else [] := by
  cases hclient : isUserAgent s.userAgent with
  | false =>
    rw [runFrom_of_noClient tree observe start hclient]
    rfl
  | true =>
    by_cases hr : (Collection.outcomes arrival link cs s.maxInFlight).filterMap Outcome.record? = []
    · rw [runFrom_of_no_record hc hl tree observe start hclient hr]
      rfl
    · obtain ⟨snapshot, hs, -, -⟩ := Snapshot.exists_ofRecords? hr
      rw [runFrom_of_snapshot hc hl tree observe start hclient hs]
      rfl

end Survey

/-! ## Findings -/

/-- Two collections that differ in the order of what came in at most. -/
structure Collection.SameUpToOrder (c d : Collection) : Prop where
  requested : c.requested = d.requested
  records : c.records.Perm d.records
  failures : c.failures.Perm d.failures

namespace Survey

/-- Two surveys that found the same, in whatever order: the same systems, as many failures, and the
same statistics. Only the mean distance, a sum that follows the order, may differ; there is one in
both or in none. -/
structure SameFindings (f g : Survey) : Prop where
  systems : f.snapshot.systems.Perm g.snapshot.systems
  nodeCount : f.snapshot.nodeCount = g.snapshot.nodeCount
  failedNodes : f.failedNodes = g.failedNodes
  total : f.stats.total = g.stats.total
  classes : f.stats.classes = g.stats.classes
  meanDistance : f.stats.meanDistance.isSome = g.stats.meanDistance.isSome

/-- What is found in a collection does not depend on the order of what came in. -/
theorem ofCollection?_same {c d : Collection} (h : c.SameUpToOrder d) (hne : c.records ≠ []) :
    ∃ f g, ofCollection? c = some f ∧ ofCollection? d = some g ∧ f.SameFindings g := by
  have hne' : d.records ≠ [] := by
    intro hnil
    have hperm := h.records
    rw [hnil] at hperm
    exact hne hperm.eq_nil
  obtain ⟨snapshot, hs, hsystems, hcount⟩ := Snapshot.exists_ofRecords? hne
  obtain ⟨snapshot', hs', hsystems', hcount'⟩ := Snapshot.exists_ofRecords? hne'
  refine ⟨_, _, by rw [ofCollection?, hs]; rfl, by rw [ofCollection?, hs']; rfl, ?_⟩
  exact {
    systems := by rw [hsystems, hsystems']; exact h.records
    nodeCount := by rw [hcount, hcount', h.records.length_eq]
    failedNodes := h.failures.length_eq
    total := h.records.length_eq
    classes := Stats.shares_perm h.records
    meanDistance := Stats.isSome_meanDistance?_perm h.records }

/-! ## Two runs -/

section TwoRuns

variable {σ τ : Type} {arrival₁ arrival₂ : Arrival} (hc₁ : arrival₁.Complete)
  (hc₂ : arrival₂.Complete) (link : Link) {cs₁ cs₂ : List Contact} (hcs : cs₁.Perm cs₂)
  {limit₁ limit₂ : Option Nat}

include hc₁ hc₂ hcs in
/-- What comes in during two runs is the same, in some order. -/
theorem outcomes_perm_outcomes :
    (Collection.outcomes arrival₁ link cs₁ limit₁).Perm
      (Collection.outcomes arrival₂ link cs₂ limit₂) :=
  (Collection.outcomes_perm hc₁ link cs₁ limit₁).trans
    ((hcs.map _).trans (Collection.outcomes_perm hc₂ link cs₂ limit₂).symm)

include hcs in
theorem requests_perm (userAgent : String) :
    (StarSurvey.requests link userAgent cs₁).Perm (StarSurvey.requests link userAgent cs₂) := by
  cases link with
  | down => exact .refl _
  | up => exact hcs.filterMap _

variable (hl₁ : ∀ n, limit₁ = some n → n ≤ maxPermits)
  (hl₂ : ∀ n, limit₂ = some n → n ≤ maxPermits) (observe₁ : σ → Outcome → σ) (start₁ : σ)
  (observe₂ : τ → Outcome → τ) (start₂ : τ)

include hc₁ hc₂ hcs hl₁ hl₂

/-- Two runs collect the same, in some order, or nothing. -/
theorem collectFrom_same :
    let c₁ := (Collection.collectFrom arrival₁ link cs₁ limit₁ observe₁ start₁).2
    let c₂ := (Collection.collectFrom arrival₂ link cs₂ limit₂ observe₂ start₂).2
    (∃ k₁ k₂, c₁ = .ok k₁ ∧ c₂ = .ok k₂ ∧ k₁.SameUpToOrder k₂ ∧ k₁.records ≠ []) ∨
      c₁ = .error (.noRecords cs₁.length cs₁.length) ∧
        c₂ = .error (.noRecords cs₁.length cs₁.length) := by
  intro c₁ c₂
  have hcame : (Collection.outcomes arrival₁ link cs₁ limit₁).Perm
      (Collection.outcomes arrival₂ link cs₂ limit₂) := outcomes_perm_outcomes hc₁ hc₂ link hcs
  have hrecords := hcame.filterMap Outcome.record?
  have heq₁ : c₁ = _ := congrArg Prod.snd (Collection.collectFrom_eq hc₁ link cs₁ hl₁ observe₁ start₁)
  have heq₂ : c₂ = _ := congrArg Prod.snd (Collection.collectFrom_eq hc₂ link cs₂ hl₂ observe₂ start₂)
  by_cases hnone : (Collection.outcomes arrival₁ link cs₁ limit₁).filterMap Outcome.record? = []
  · have hnone₂ := hrecords
    rw [hnone] at hnone₂
    right
    rw [heq₁, heq₂, hcs.length_eq]
    exact ⟨if_pos hnone, if_pos hnone₂.symm.eq_nil⟩
  · have hsome₂ : (Collection.outcomes arrival₂ link cs₂ limit₂).filterMap Outcome.record? ≠ [] := by
      intro hnone₂
      rw [hnone₂] at hrecords
      exact hnone hrecords.eq_nil
    left
    rw [heq₁, heq₂]
    exact ⟨_, _, if_neg hnone, if_neg hsome₂,
      ⟨hcs.length_eq, hrecords, hcame.filterMap Outcome.failure?⟩, hnone⟩

/-- Two runs end with the same findings, or with the same fault. -/
theorem runFrom_same_result (s : Settings) (tree : FileTree) :
    let r₁ := runFrom arrival₁ link cs₁ { s with maxInFlight := limit₁ } tree observe₁ start₁
    let r₂ := runFrom arrival₂ link cs₂ { s with maxInFlight := limit₂ } tree observe₂ start₂
    (∃ f₁ f₂, r₁.result = .ok f₁ ∧ r₂.result = .ok f₂ ∧ f₁.SameFindings f₂) ∨
      ∃ fault, r₁.result = .error fault ∧ r₂.result = .error fault := by
  intro r₁ r₂
  cases hclient : isUserAgent s.userAgent with
  | false =>
    have hr₁ : r₁ = _ := runFrom_of_noClient tree observe₁ start₁ hclient
    have hr₂ : r₂ = _ := runFrom_of_noClient tree observe₂ start₂ hclient
    rw [hr₁, hr₂]
    exact .inr ⟨_, rfl, rfl⟩
  | true =>
    rcases collectFrom_same hc₁ hc₂ link hcs hl₁ hl₂ observe₁ start₁ observe₂ start₂ with
      ⟨k₁, k₂, hk₁, hk₂, hsame, hne⟩ | ⟨hend₁, hend₂⟩
    · obtain ⟨f₁, f₂, hf₁, hf₂, hfound⟩ := ofCollection?_same hsame hne
      have hr₁ : r₁.result = _ := result_of_collected
        (s := { s with maxInFlight := limit₁ }) tree observe₁ start₁ hclient hk₁ hf₁
      have hr₂ : r₂.result = _ := result_of_collected
        (s := { s with maxInFlight := limit₂ }) tree observe₂ start₂ hclient hk₂ hf₂
      -- what is written differs, but not whether it can be written
      have hsave : (f₁.snapshot.save tree s.output).2 = (f₂.snapshot.save tree s.output).2 :=
        FileTree.replace_snd_eq tree s.output _ _
      rw [hr₁, hr₂, hsave]
      cases (f₂.snapshot.save tree s.output).2 with
      | error fault => exact .inr ⟨_, rfl, rfl⟩
      | ok _ => exact .inl ⟨f₁, f₂, rfl, rfl, hfound⟩
    · have hr₁ : r₁.result = _ := result_of_noRecords
        (s := { s with maxInFlight := limit₁ }) tree observe₁ start₁ hclient hend₁
      have hr₂ : r₂.result = _ := result_of_noRecords
        (s := { s with maxInFlight := limit₂ }) tree observe₂ start₂ hclient hend₂
      rw [hr₁, hr₂]
      exact .inr ⟨_, rfl, rfl⟩

end TwoRuns

/-- **Two runs.** Two surveys turn to the same nodes, which give the same replies; the outcomes
arrive in two orders, each fetch once, under two bounds. Where an address is listed twice another of
its fetches may get a reply, so the contacts of the second run are a rearrangement of those of the
first.

The observers see the same outcomes in some order. The collections have the same records and
failures in some order and the same is found in them, or neither has a record and both count the
same failures. The surveys end with the same findings or with the same fault, and the same requests
are sent. -/
theorem runFrom_same_up_to_order {σ τ : Type} (arrival₁ arrival₂ : Arrival)
    (hc₁ : arrival₁.Complete) (hc₂ : arrival₂.Complete) (link : Link) (cs₁ cs₂ : List Contact)
    (hcs : cs₁.Perm cs₂) (s : Settings) (limit₁ limit₂ : Option Nat)
    (hl₁ : ∀ n, limit₁ = some n → n ≤ maxPermits) (hl₂ : ∀ n, limit₂ = some n → n ≤ maxPermits)
    (tree : FileTree) (observe₁ : σ → Outcome → σ) (start₁ : σ) (observe₂ : τ → Outcome → τ)
    (start₂ : τ) :
    let came₁ := Collection.outcomes arrival₁ link cs₁ limit₁
    let came₂ := Collection.outcomes arrival₂ link cs₂ limit₂
    let c₁ := Collection.collectFrom arrival₁ link cs₁ limit₁ observe₁ start₁
    let c₂ := Collection.collectFrom arrival₂ link cs₂ limit₂ observe₂ start₂
    let r₁ := runFrom arrival₁ link cs₁ { s with maxInFlight := limit₁ } tree observe₁ start₁
    let r₂ := runFrom arrival₂ link cs₂ { s with maxInFlight := limit₂ } tree observe₂ start₂
    (came₁.Perm came₂ ∧ c₁.1 = came₁.foldl observe₁ start₁ ∧ c₂.1 = came₂.foldl observe₂ start₂) ∧
    ((∃ k₁ k₂ f₁ f₂, c₁.2 = .ok k₁ ∧ c₂.2 = .ok k₂ ∧ k₁.SameUpToOrder k₂ ∧
        ofCollection? k₁ = some f₁ ∧ ofCollection? k₂ = some f₂ ∧ f₁.SameFindings f₂) ∨
      c₁.2 = .error (.noRecords cs₁.length cs₁.length) ∧
        c₂.2 = .error (.noRecords cs₁.length cs₁.length)) ∧
    ((∃ f₁ f₂, r₁.result = .ok f₁ ∧ r₂.result = .ok f₂ ∧ f₁.SameFindings f₂) ∨
      ∃ fault, r₁.result = .error fault ∧ r₂.result = .error fault) ∧
    r₁.requests.Perm r₂.requests := by
  intro came₁ came₂ c₁ c₂ r₁ r₂
  have hseen₁ : c₁.1 = came₁.foldl observe₁ start₁ :=
    congrArg Prod.fst (Collection.collectFrom_eq hc₁ link cs₁ hl₁ observe₁ start₁)
  have hseen₂ : c₂.1 = came₂.foldl observe₂ start₂ :=
    congrArg Prod.fst (Collection.collectFrom_eq hc₂ link cs₂ hl₂ observe₂ start₂)
  refine ⟨⟨outcomes_perm_outcomes hc₁ hc₂ link hcs, hseen₁, hseen₂⟩, ?_,
    runFrom_same_result hc₁ hc₂ link hcs hl₁ hl₂ observe₁ start₁ observe₂ start₂ s tree, ?_⟩
  · rcases collectFrom_same hc₁ hc₂ link hcs hl₁ hl₂ observe₁ start₁ observe₂ start₂ with
      ⟨k₁, k₂, hk₁, hk₂, hsame, hne⟩ | hend
    · obtain ⟨f₁, f₂, hf₁, hf₂, hfound⟩ := ofCollection?_same hsame hne
      exact .inl ⟨k₁, k₂, f₁, f₂, hk₁, hk₂, hsame, hf₁, hf₂, hfound⟩
    · exact .inr hend
  · have hsent₁ : r₁.requests = _ := requests_runFrom
      (s := { s with maxInFlight := limit₁ }) hc₁ hl₁ tree observe₁ start₁
    have hsent₂ : r₂.requests = _ := requests_runFrom
      (s := { s with maxInFlight := limit₂ }) hc₂ hl₂ tree observe₂ start₂
    rw [hsent₁, hsent₂]
    split
    · exact requests_perm link hcs s.userAgent
    · exact .refl _

/-- An address that is listed twice and answers once, surveyed without a bound and with one fetch at
a time; in the second run the other fetch gets the reply, and the outcomes come in from the end. -/
theorem runFrom_same_up_to_order_of_a_repeated_address :
    let body := Text.bytes "[\"Sol\",[\"G\",\"\"],[0,1.5,-2e1],\"2024-03-01T12:30:60Z\"]"
    let odd := Text.bytes "[\"X\",[\"WR\",\"\"],[3,0,4],\"2024-03-01T12:30:59Z\"]"
    let cs₁ : List Contact := [⟨"a:1", .complete 500 body⟩, ⟨"a:1", .dropped⟩, ⟨"b:2", .complete 200 odd⟩]
    let cs₂ : List Contact := [⟨"a:1", .dropped⟩, ⟨"a:1", .complete 500 body⟩, ⟨"b:2", .complete 200 odd⟩]
    let inOrder : Arrival := fun _ cs => List.range cs.length
    let reversed : Arrival := fun _ cs => (List.range cs.length).reverse
    let tree : FileTree := ⟨[], [(["galaxy.json"], .file 0o600 [0])]⟩
    let note (seen : List String) (o : Outcome) := seen ++ [o.address]
    let r₁ := runFrom inOrder .up cs₁ { Settings.default with maxInFlight := none } tree note []
    let r₂ := runFrom reversed .up cs₂ { Settings.default with maxInFlight := some 1 } tree note []
    inOrder.Complete ∧ reversed.Complete ∧ cs₁.Perm cs₂ ∧
    (∀ n, none = some n → n ≤ maxPermits) ∧ (∀ n, some 1 = some n → n ≤ maxPermits) ∧
    (∃ f₁ f₂, r₁.result = .ok f₁ ∧ r₂.result = .ok f₂ ∧ f₁.SameFindings f₂ ∧
      f₁.snapshot.systems ≠ f₂.snapshot.systems) ∧ r₁.requests.Perm r₂.requests := by
  intro body odd cs₁ cs₂ inOrder reversed tree note r₁ r₂
  have hc₁ : inOrder.Complete := fun _ cs => .refl _
  have hc₂ : reversed.Complete := fun _ cs => List.reverse_perm _
  have hcs : cs₁.Perm cs₂ := .swap _ _ _
  have hl₁ : ∀ n, none = some n → n ≤ maxPermits := fun _ h => nomatch h
  have hl₂ : ∀ n, some 1 = some n → n ≤ maxPermits := by
    rintro n ⟨⟩
    decide
  have hok : r₁.result.isOk = true := by decide +kernel
  obtain ⟨-, -, hfound, hsent⟩ := runFrom_same_up_to_order inOrder reversed hc₁ hc₂ .up cs₁ cs₂ hcs
    Settings.default none (some 1) hl₁ hl₂ tree note [] note []
  refine ⟨hc₁, hc₂, hcs, hl₁, hl₂, ?_, hsent⟩
  rcases hfound with ⟨f₁, f₂, hf₁, hf₂, hsame⟩ | ⟨fault, hfault, -⟩
  · have hdiffer : (r₁.result.toOption.map (·.snapshot.systems)) ≠
        r₂.result.toOption.map (·.snapshot.systems) := by decide +kernel
    refine ⟨f₁, f₂, hf₁, hf₂, hsame, fun heq => hdiffer ?_⟩
    rw [show r₁.result = _ from hf₁, show r₂.result = _ from hf₂]
    exact congrArg some heq
  · rw [show r₁.result = _ from hfault] at hok
    cases hok

end Survey

end StarSurvey
