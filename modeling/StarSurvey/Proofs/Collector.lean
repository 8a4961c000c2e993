import Mathlib.Algebra.Ring.Nat
import StarSurvey.Collector
import StarSurvey.Program
import StarSurvey.Proofs.Collection

/-!
# When a collection breaks off

- **Setting up** (`FanOut.setUp_eq`): a list that can be counted has its channel, so it is the bound
  that decides whether a fan-out can be set up.
- **Attempts** (`Collector.collect_eq`, `Collector.attempt_eq`): an attempt breaks off there, or it ends
  as the collection does.
- **Settings** (`Collector.attempt_breaks_off_iff`): with which settings an attempt breaks off. They are
  not rejected for it (`Collector.attempt_breaks_off_with_accepted_settings`).
-/

namespace StarSurvey

/-- More permits than can be counted: the bound is one, and it is that large. -/
theorem Collection.lt_bound_iff {limit : Option Nat} :
    maxPermits < (bound limit).getD 0 ↔ ∃ n, limit = some n ∧ maxPermits < n := by
  cases limit with
  | none => simp [bound]
  | some n =>
    rw [bound, Option.filter_some]
    cases n with
    | zero => simp
    | succ n => simp

theorem Collection.bound_bound (limit : Option Nat) : bound (bound limit) = bound limit := by
  simp [bound, Option.filter_filter]

/-- The only collections that end without a fault of their own are those beyond the bound. -/
theorem Collection.collectFrom_eq_uncountable_iff {σ : Type} {arrival : Arrival} {link : Link}
    {cs : List Contact} {limit : Option Nat} {observe : σ → Outcome → σ} {start : σ} :
    (collectFrom arrival link cs limit observe start).2 = .error .uncountable ↔
      cs ≠ [] ∧ maxPermits < (bound limit).getD 0 := by
  unfold collectFrom
  split_ifs with hnil hbound
  · simp [List.isEmpty_iff.mp hnil]
  · simp [hbound, List.isEmpty_iff.not.mp hnil]
  · simp only [hbound, and_false, iff_false]
    split_ifs
    · exact nofun
    · exact nofun

/-- A bound of none is no bound, so leaving it out changes nothing. -/
theorem Collection.collectFrom_bound {σ : Type} (arrival : Arrival) (link : Link)
    (cs : List Contact) (limit : Option Nat) (observe : σ → Outcome → σ) (start : σ) :
    collectFrom arrival link cs (bound limit) observe start =
      collectFrom arrival link cs limit observe start := by
  rw [collectFrom, collectFrom, outcomes, outcomes, bound_bound]

/-- A survey breaks off where its collection does. -/
theorem Survey.result_eq_uncountable_iff {σ : Type} {arrival : Arrival} {link : Link}
    {cs : List Contact} {s : Settings} {tree : FileTree} {observe : σ → Outcome → σ} {start : σ} :
    (runFrom arrival link cs s tree observe start).result = .error (.uncollected .uncountable) ↔
      isUserAgent s.userAgent = true ∧
        (Collection.collectFrom arrival link cs s.maxInFlight observe start).2 =
          .error .uncountable := by
  unfold runFrom
  cases isUserAgent s.userAgent with
  | false => simp
  | true =>
    rcases Collection.collectFrom arrival link cs s.maxInFlight observe start with ⟨seen, fault | c⟩
    · cases fault <;> simp [Except.mapError]
    · simp only [Except.mapError, Bool.not_true, Bool.false_eq_true, if_false, true_and, reduceCtorEq,
        iff_false]
      cases ofCollection? c with
      | none => exact nofun
      | some found =>
        simp only
        rcases found.snapshot.save tree s.output with ⟨saved, fault | ⟨⟩⟩
        · exact nofun
        · exact nofun

/-! ## Setting up -/

/-- Once there is a channel all hangs on the limiter. -/
theorem FanOut.setUp_eq {requested : Nat} {limit : Option Nat} (hpos : 0 < requested)
    (hle : requested ≤ maxPermits) :
    setUp requested limit =
      if maxPermits < (Collection.bound limit).getD 0
      then .error (.limiter ((Collection.bound limit).getD 0)) else .ok (start requested limit) := by
  unfold setUp
  rw [if_neg (by omega)]
  cases Collection.bound limit with
  | none => simp
  | some n => rfl

/-! ## Attempts -/

namespace Collector

variable {σ : Type} {arrival : Arrival} {link : Link} {cs : List Contact}
  (hlength : cs.length ≤ maxPermits) {observe : σ → Outcome → σ} {start : σ}

include hlength in
/-- A collector collects, or breaks off in front of a limiter that is too large. -/
theorem collect_eq (k : Collector) :
    k.collect arrival link cs observe start =
      if cs ≠ [] ∧ maxPermits < (Collection.bound k.limit).getD 0
      then .error (.limiter ((Collection.bound k.limit).getD 0))
      else .ok (Collection.collectFrom arrival link cs k.limit observe start) := by
  unfold collect Collection.collectFrom
  by_cases hnil : cs = []
  · simp [hnil]
  · have hpos : 0 < cs.length := List.length_pos_iff.mpr hnil
    have hempty : cs.isEmpty = false := by simpa using hnil
    rw [FanOut.setUp_eq hpos hlength]
    by_cases hbound : maxPermits < (Collection.bound k.limit).getD 0
    · simp [hempty, hnil, hbound, bind, Except.bind]
    · simp only [hempty, hnil, hbound, ne_eq, not_false_eq_true, and_false, if_false,
        Bool.false_eq_true]
      rfl

include hlength in
/-- An attempt ends as its collection does, or breaks off if that cannot be counted. -/
theorem attempt_eq (s : Settings) :
    attempt s arrival link cs observe start =
      if isUserAgent s.userAgent then
        if cs ≠ [] ∧ maxPermits < (Collection.bound s.maxInFlight).getD 0
        then .error (.limiter ((Collection.bound s.maxInFlight).getD 0))
        else .ok (Collection.collectFrom arrival link cs s.maxInFlight observe start)
      else .ok (start, .error .noClient) := by
  unfold attempt ofSettings
  cases isUserAgent s.userAgent with
  | false => rfl
  | true => simp only [if_true, collect_eq hlength, Collection.bound_bound, Collection.collectFrom_bound]

/-- **When a collection breaks off.** Whatever the settings, a list of addresses that can be counted,
the replies and the order of the outcomes: an attempt to collect breaks off if and only if there is a
client, somebody to ask, and a bound of more fetches at once than a limiter can count; and then a
survey breaks off as well. If not, it ends with a collection or with a fault that has an error. -/
theorem attempt_breaks_off_iff (arrival : Arrival) (link : Link) (cs : List Contact)
    (hlength : cs.length < 2 ^ 61) (s : Settings) (observe : σ → Outcome → σ) (start : σ) :
    let a := attempt s arrival link cs observe start
    ((∃ b, a = .error b) ↔ isUserAgent s.userAgent = true ∧ cs ≠ [] ∧
      ∃ n, s.maxInFlight = some n ∧ 2 ^ 61 ≤ n) ∧
    (∀ tree, (∃ b, a = .error b) ↔
      (Survey.runFrom arrival link cs s tree observe start).result =
        .error (.uncollected .uncountable)) ∧
    ((¬ ∃ b, a = .error b) → ∃ seen ends, a = .ok (seen, ends) ∧ ends ≠ .error .uncountable) := by
  intro a
  have hmax : maxPermits + 1 = 2 ^ 61 := by decide
  have ha : a = _ := attempt_eq (by omega) s
  have hbound : maxPermits < (Collection.bound s.maxInFlight).getD 0 ↔
      ∃ n, s.maxInFlight = some n ∧ 2 ^ 61 ≤ n := by
    rw [Collection.lt_bound_iff, ← hmax]
    rfl
  have hbreaks : (∃ b, a = .error b) ↔ isUserAgent s.userAgent = true ∧ cs ≠ [] ∧
      ∃ n, s.maxInFlight = some n ∧ 2 ^ 61 ≤ n := by
    rw [ha, ← hbound]
    split_ifs with hclient hlimit
    · simpa [hclient] using hlimit
    · simpa [hclient] using hlimit
    · simp [hclient]
  refine ⟨hbreaks, fun tree => ?_, fun hnot => ?_⟩
  · rw [hbreaks, Survey.result_eq_uncountable_iff, Collection.collectFrom_eq_uncountable_iff, hbound]
  · rw [ha]
    split_ifs with hclient hlimit
    · exact absurd (hbreaks.mpr ⟨hclient, hlimit.1, hbound.mp hlimit.2⟩) hnot
    · exact ⟨_, _, rfl, mt Collection.collectFrom_eq_uncountable_iff.mp hlimit⟩
    · exact ⟨_, _, rfl, nofun⟩

/-- With the greatest bound that a limiter can count an attempt ends. -/
theorem attempt_ends_at_the_greatest_bound :
    let s := { Settings.default with maxInFlight := some (2 ^ 61 - 1) }
    let cs : List Contact := [⟨"a:1", .dropped⟩, ⟨"a:1", .truncated 200 []⟩]
    let arrival : Arrival := fun _ cs => (List.range cs.length).reverse
    let a := attempt s arrival .up cs (fun seen o => seen ++ [o.address]) []
    cs.length < 2 ^ 61 ∧ ∃ seen ends, a = .ok (seen, ends) ∧ ends ≠ .error .uncountable := by
  intro s cs arrival a
  have hlength : cs.length < 2 ^ 61 := by decide
  obtain ⟨hbreaks, -, hends⟩ :=
    attempt_breaks_off_iff arrival .up cs hlength s (fun seen o => seen ++ [o.address]) []
  refine ⟨hlength, hends fun hbroken => ?_⟩
  obtain ⟨-, -, n, hn, hle⟩ := hbreaks.mp hbroken
  cases hn
  exact absurd hle (by decide)

/-- One more is accepted as a setting and breaks off the attempt, and so the program. -/
theorem attempt_breaks_off_with_accepted_settings :
    let s := { Settings.default with maxInFlight := some (2 ^ 61) }
    let cs : List Contact := [⟨"a:1", .dropped⟩]
    let arrival : Arrival := fun _ cs => List.range cs.length
    let m : Program.Machine :=
      { arguments := ["-nodes", "a:1", "--max-in-flight", "2305843009213693952"]
        environment := []
        tree := .empty
        network := ⟨.up, cs, [0]⟩ }
    s.invalid? = none ∧
      attempt s arrival .up cs (fun seen o => seen ++ [o.address]) [] = .error (.limiter (2 ^ 61)) ∧
      (Program.run m).exitCode = 101 := by
  decide +kernel

end Collector

end StarSurvey
