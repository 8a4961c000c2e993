import Mathlib.Algebra.Ring.Nat
import Mathlib.Data.List.Perm.Basic
import StarSurvey.FanOut
import StarSurvey.Proofs.Collection

/-!
# Runs of the fan-out

- **The invariant** (`Inv`): the free permits and those that tasks hold are the bound, the senders
  are those of the tasks that are not done and that of the launcher, and each task that has
  delivered is once among the outcomes taken in or waiting. Every step keeps it (`Step.inv`).
- **Progress** (`Inv.exists_step`): while the receiver has not stopped, somebody can go on.
- **The end** (`Inv.received_perm`): once it has stopped, every task is done and each outcome was
  taken in once. Every run gets there (`Step.work_lt`).
- **All orders** (`complete_iff_reachable`): the orders in which outcomes can arrive are those that
  bring in each once, under every bound.
-/

namespace StarSurvey.FanOut

/-- The task of an entry is launched and in a phase of some kind. -/
def InPhase (f : Phase → Bool) (tasks : List Phase) (i : Nat) : Prop :=
  ∃ p, tasks[i]? = some p ∧ f p = true

/-- The task of an entry has put its outcome into the channel. -/
def Delivered (tasks : List Phase) (i : Nat) : Prop :=
  ∃ p, tasks[i]? = some p ∧ p.hasDelivered = true

/-- What holds at every moment of a run (module doc). -/
structure Inv (requested : Nat) (limit : Option Nat) (s : FanOut) : Prop where
  size : s.requested = requested
  bounded : s.tasks.length ≤ s.requested
  launched : s.launching = false → s.tasks.length = s.requested
  lent : s.permits.map (· + s.holders) = Collection.bound limit
  held : s.senders = s.alive + (if s.launching then 1 else 0)
  once : (s.received ++ s.queue).Nodup
  delivered : ∀ i, i ∈ s.received ++ s.queue ↔ Delivered s.tasks i
  ended : s.stopped = true → s.launching = false ∧ s.queue = [] ∧ s.senders = 0

/-! ## One task moves on -/

section Move

variable {tasks : List Phase} {i : Nat} {p : Phase}

/-- How a count of tasks changes when one of them moves on. -/
theorem countP_set_add (f : Phase → Bool) (hi : tasks[i]? = some p) (q : Phase) :
    (tasks.set i q).countP f + (f p).toNat = tasks.countP f + (f q).toNat := by
  obtain ⟨hlt, rfl⟩ := List.getElem?_eq_some_iff.mp hi
  have hle := List.boole_getElem_le_countP (p := f) hlt
  rw [List.countP_set hlt]
  cases hp : f tasks[i] <;> cases hq : f q <;>
    simp only [hp, Bool.false_eq_true, ↓reduceIte, Bool.toNat_false, Bool.toNat_true] at hle ⊢ <;>
    omega

theorem countP_set_of_eq {f : Phase → Bool} (hi : tasks[i]? = some p) {q : Phase}
    (hq : f q = f p) : (tasks.set i q).countP f = tasks.countP f := by
  have := countP_set_add f hi q
  rw [hq] at this
  omega

theorem countP_pos_of_getElem? {f : Phase → Bool} (hi : tasks[i]? = some p) (hp : f p = true) :
    0 < tasks.countP f :=
  List.countP_pos_iff.mpr ⟨p, List.mem_of_getElem? hi, hp⟩

theorem inPhase_set (f : Phase → Bool) (hi : tasks[i]? = some p) (q : Phase) (j : Nat) :
    InPhase f (tasks.set i q) j ↔ (j = i ∧ f q = true) ∨ (j ≠ i ∧ InPhase f tasks j) := by
  have hlt := (List.getElem?_eq_some_iff.mp hi).1
  unfold InPhase
  by_cases hj : j = i
  · subst hj
    simp [List.getElem?_set_self hlt]
  · rw [List.getElem?_set_ne (Ne.symm hj)]
    simp [hj]

/-- A task that moves on within a kind of phases, or outside of it. -/
theorem inPhase_set_of_eq {f : Phase → Bool} (hi : tasks[i]? = some p) {q : Phase}
    (hq : f q = f p) (j : Nat) : InPhase f (tasks.set i q) j ↔ InPhase f tasks j := by
  rw [inPhase_set f hi]
  by_cases hj : j = i
  · subst hj
    simp [InPhase, hi, hq]
  · simp [hj]

theorem inPhase_append_waiting {f : Phase → Bool} (hf : f .waiting = false) (j : Nat) :
    InPhase f (tasks ++ [.waiting]) j ↔ InPhase f tasks j := by
  unfold InPhase
  rcases Nat.lt_trichotomy j tasks.length with hj | rfl | hj
  · rw [List.getElem?_append_left hj]
  · simp [hf]
  · rw [List.getElem?_eq_none (by rw [List.length_append]; exact hj),
      List.getElem?_eq_none (Nat.le_of_lt hj)]

theorem delivered_set (hi : tasks[i]? = some p) (q : Phase) (j : Nat) :
    Delivered (tasks.set i q) j ↔
      (j = i ∧ q.hasDelivered = true) ∨ (j ≠ i ∧ Delivered tasks j) :=
  inPhase_set Phase.hasDelivered hi q j

/-- A task that neither puts its outcome into the channel nor takes it back. -/
theorem delivered_set_of_eq (hi : tasks[i]? = some p) {q : Phase}
    (hq : q.hasDelivered = p.hasDelivered) (j : Nat) :
    Delivered (tasks.set i q) j ↔ Delivered tasks j :=
  inPhase_set_of_eq hi hq j

theorem delivered_append_waiting (j : Nat) :
    Delivered (tasks ++ [.waiting]) j ↔ Delivered tasks j :=
  inPhase_append_waiting rfl j

end Move

/-! ## Every step keeps the invariant -/

variable {requested : Nat} {limit : Option Nat} {s t : FanOut}

theorem inv_start : Inv requested limit (start requested limit) where
  size := rfl
  bounded := Nat.zero_le _
  launched := by simp [start]
  lent := by simp [start, holders]
  held := rfl
  once := List.nodup_nil
  delivered := by simp [start, Delivered]
  ended := by simp [start]

theorem Inv.launch (hi : Inv requested limit s) (hl : s.launching = true)
    (hn : s.tasks.length < s.requested) :
    Inv requested limit { s with tasks := s.tasks ++ [.waiting], senders := s.senders + 1 } where
  size := hi.size
  bounded := by rw [List.length_append]; exact hn
  launched := by simp [hl]
  lent := by simpa [holders, Phase.holdsPermit] using hi.lent
  held := by simp [hi.held, hl, alive, Phase.holdsSender]
  once := hi.once
  delivered j := by rw [delivered_append_waiting]; exact hi.delivered j
  ended hs := absurd (hi.ended hs).1 (by simp [hl])

theorem Inv.close (hi : Inv requested limit s) (hl : s.launching = true)
    (hn : s.tasks.length = s.requested) :
    Inv requested limit { s with launching := false, senders := s.senders - 1 } where
  size := hi.size
  bounded := hi.bounded
  launched _ := hn
  lent := hi.lent
  held := by simp [hi.held, hl, alive]
  once := hi.once
  delivered := hi.delivered
  ended hs := absurd (hi.ended hs).1 (by simp [hl])

theorem Inv.fetch (hi : Inv requested limit s) {i : Nat} (hw : s.tasks[i]? = some .waiting)
    (hp : s.permits ≠ some 0) :
    Inv requested limit
      { s with tasks := s.tasks.set i .fetching, permits := s.permits.map (· - 1) } where
  size := hi.size
  bounded := by rw [List.length_set]; exact hi.bounded
  launched hl := by rw [List.length_set]; exact hi.launched hl
  lent := by
    have hc := countP_set_add Phase.holdsPermit hw .fetching
    have hl := hi.lent
    cases hs : s.permits with
    | none => rw [hs] at hl; exact hl
    | some n =>
      rw [hs] at hl hp
      simp only [Option.map_some, holders] at hl ⊢
      rw [← hl, Option.some.injEq]
      have hn : n ≠ 0 := fun h => hp (by rw [h])
      simp only [Phase.holdsPermit, Bool.toNat_false, Bool.toNat_true] at hc
      omega
  held := by
    simpa only [alive, countP_set_of_eq (f := Phase.holdsSender) (q := .fetching) hw rfl] using hi.held
  once := hi.once
  delivered j := (hi.delivered j).trans (delivered_set_of_eq (q := .fetching) hw rfl j).symm
  ended := hi.ended

theorem Inv.answer (hi : Inv requested limit s) {i : Nat} (hf : s.tasks[i]? = some .fetching) :
    Inv requested limit { s with tasks := s.tasks.set i (.sending false) } where
  size := hi.size
  bounded := by rw [List.length_set]; exact hi.bounded
  launched hl := by rw [List.length_set]; exact hi.launched hl
  lent := by
    simpa only [holders, countP_set_of_eq (f := Phase.holdsPermit) (q := .sending false) hf rfl] using hi.lent
  held := by
    simpa only [alive, countP_set_of_eq (f := Phase.holdsSender) (q := .sending false) hf rfl] using hi.held
  once := hi.once
  delivered j := (hi.delivered j).trans (delivered_set_of_eq (q := .sending false) hf rfl j).symm
  ended := hi.ended

/-- The outcome of a task that has not delivered is nowhere. -/
theorem Inv.not_mem (hi : Inv requested limit s) {i : Nat} {p : Phase} (hp : s.tasks[i]? = some p)
    (hd : p.hasDelivered = false) : i ∉ s.received ++ s.queue := by
  rw [hi.delivered i]
  rintro ⟨q, hq, hqd⟩
  rw [hp] at hq
  cases hq
  rw [hd] at hqd
  cases hqd

theorem Inv.deliver (hi : Inv requested limit s) {i : Nat}
    (hw : s.tasks[i]? = some (.sending false)) :
    Inv requested limit
      { s with tasks := s.tasks.set i (.sending true), queue := s.queue ++ [i] } where
  size := hi.size
  bounded := by rw [List.length_set]; exact hi.bounded
  launched hl := by rw [List.length_set]; exact hi.launched hl
  lent := by
    simpa only [holders, countP_set_of_eq (f := Phase.holdsPermit) (q := .sending true) hw rfl] using hi.lent
  held := by
    simpa only [alive, countP_set_of_eq (f := Phase.holdsSender) (q := .sending true) hw rfl] using hi.held
  once := by
    rw [← List.append_assoc, (List.perm_append_singleton i _).nodup_iff]
    exact List.nodup_cons.mpr ⟨hi.not_mem hw rfl, hi.once⟩
  delivered j := by
    rw [← List.append_assoc, List.mem_append, List.mem_singleton, hi.delivered j, delivered_set hw]
    by_cases hj : j = i
    · simp [hj, Phase.hasDelivered]
    · simp [hj]
  ended hs := by
    -- Without senders every task is done, so none of them can deliver.
    obtain ⟨-, -, h0⟩ := hi.ended hs
    have hpos : 0 < s.alive := countP_pos_of_getElem? hw rfl
    have := hi.held
    omega

theorem Inv.finish (hi : Inv requested limit s) {i : Nat}
    (hw : s.tasks[i]? = some (.sending true)) :
    Inv requested limit { s with
      tasks := s.tasks.set i .done, permits := s.permits.map (· + 1), senders := s.senders - 1 } where
  size := hi.size
  bounded := by rw [List.length_set]; exact hi.bounded
  launched hl := by rw [List.length_set]; exact hi.launched hl
  lent := by
    have hc := countP_set_add Phase.holdsPermit hw .done
    simp only [Phase.holdsPermit, Bool.toNat_false, Bool.toNat_true] at hc
    rw [← hi.lent, Option.map_map]
    congr 1
    funext n
    simp only [Function.comp_apply, holders]
    omega
  held := by
    have hc := countP_set_add Phase.holdsSender hw .done
    have hh := hi.held
    rw [show Phase.holdsSender (.sending true) = true from rfl,
      show Phase.holdsSender .done = false from rfl] at hc
    simp only [Bool.toNat_false, Bool.toNat_true] at hc
    simp only [alive] at hh ⊢
    omega
  once := hi.once
  delivered j := (hi.delivered j).trans (delivered_set_of_eq (q := .done) hw rfl j).symm
  ended hs := by
    obtain ⟨hl, hq, h0⟩ := hi.ended hs
    exact ⟨hl, hq, by simp [h0]⟩

theorem Inv.receive (hi : Inv requested limit s) {i : Nat} {rest : List Nat}
    (hs : s.stopped = false) (hq : s.queue = i :: rest) :
    Inv requested limit { s with queue := rest, received := s.received ++ [i] } where
  size := hi.size
  bounded := hi.bounded
  launched := hi.launched
  lent := hi.lent
  held := hi.held
  once := by simpa [hq] using hi.once
  delivered j := by simpa [hq] using hi.delivered j
  ended h := by simp [hs] at h

theorem Inv.stop (hi : Inv requested limit s) (hl : s.launching = false) (hq : s.queue = [])
    (hn : s.senders = 0) : Inv requested limit { s with stopped := true } :=
  { hi with ended := fun _ => ⟨hl, hq, hn⟩ }

theorem Step.inv (h : Step s t) (hi : Inv requested limit s) : Inv requested limit t := by
  cases h with
  | launch hl hn => exact hi.launch hl hn
  | close hl hn => exact hi.close hl hn
  | fetch i hw hp => exact hi.fetch hw hp
  | answer i hf => exact hi.answer hf
  | deliver i hw _ => exact hi.deliver hw
  | finish i hw => exact hi.finish hw
  | receive i rest _ hs hq => exact hi.receive hs hq
  | stop hl _ hq hn => exact hi.stop hl hq hn

theorem Reachable.inv (h : Reachable requested limit s) : Inv requested limit s := by
  induction h with
  | start => exact inv_start
  | step _ hst ih => exact hst.inv ih

/-! ## Progress -/

/-- No more permits are held than there are. -/
theorem Inv.holders_le (hi : Inv requested limit s) {n : Nat} (hn : Collection.bound limit = some n) :
    s.holders ≤ n := by
  have hl := hi.lent
  rw [hn, Option.map_eq_some_iff] at hl
  obtain ⟨free, -, rfl⟩ := hl
  exact Nat.le_add_left _ _

/-- Only entries of the list have outcomes. -/
theorem Inv.subset_range (hi : Inv requested limit s) :
    s.received ++ s.queue ⊆ List.range requested := by
  intro i hm
  obtain ⟨p, hp, -⟩ := (hi.delivered i).mp hm
  have hlt := (List.getElem?_eq_some_iff.mp hp).1
  have := hi.bounded
  rw [hi.size] at this
  exact List.mem_range.mpr (by omega)

theorem Inv.length_queue_le (hi : Inv requested limit s) : s.queue.length ≤ requested := by
  have := hi.once.length_le_of_subset hi.subset_range
  simp only [List.length_append, List.length_range] at this
  omega

/-- A task that is about to deliver finds room: its own outcome is not in the channel yet. -/
theorem Inv.length_queue_lt (hi : Inv requested limit s) {i : Nat}
    (hw : s.tasks[i]? = some (.sending false)) : s.queue.length < requested := by
  have hn : (i :: (s.received ++ s.queue)).Nodup :=
    List.nodup_cons.mpr ⟨hi.not_mem hw rfl, hi.once⟩
  have hlt := (List.getElem?_eq_some_iff.mp hw).1
  have hb := hi.bounded
  rw [hi.size] at hb
  have hsub : i :: (s.received ++ s.queue) ⊆ List.range requested :=
    List.cons_subset.mpr ⟨List.mem_range.mpr (by omega), hi.subset_range⟩
  have := hn.length_le_of_subset hsub
  simp only [List.length_cons, List.length_append, List.length_range] at this
  omega

/-- A task that holds a permit can go on. -/
theorem Inv.exists_step_of_holder (hi : Inv requested limit s) {i : Nat} {p : Phase}
    (hp : s.tasks[i]? = some p) (hh : p.holdsPermit = true) : ∃ t, Step s t := by
  match p, hh with
  | .fetching, _ => exact ⟨_, .answer i hp⟩
  | .sending false, _ => exact ⟨_, .deliver i hp (by rw [hi.size]; exact hi.length_queue_lt hp)⟩
  | .sending true, _ => exact ⟨_, .finish i hp⟩

/-- If no permit is left then some task holds one, because a bound is not zero. -/
theorem Inv.exists_holder (hi : Inv requested limit s) (h0 : s.permits = some 0) :
    ∃ (i : Nat) (p : Phase), s.tasks[i]? = some p ∧ p.holdsPermit = true := by
  have hl := hi.lent
  rw [h0, Option.map_some, Nat.zero_add] at hl
  have hpos : 0 < s.holders := of_decide_eq_true (Option.filter_eq_some_iff.mp hl.symm).2
  obtain ⟨p, hp, hh⟩ := List.countP_pos_iff.mp hpos
  obtain ⟨i, hi⟩ := List.getElem?_of_mem hp
  exact ⟨i, p, hi, hh⟩

/-- **Progress.** While the receiver has not stopped, somebody can go on: the launcher, a task that
holds a permit, a task that waits for one, or the receiver. -/
theorem Inv.exists_step (hi : Inv requested limit s) (hs : s.stopped = false) : ∃ t, Step s t := by
  cases hl : s.launching with
  | true =>
    rcases Nat.lt_or_eq_of_le hi.bounded with hn | hn
    · exact ⟨_, .launch hl hn⟩
    · exact ⟨_, .close hl hn⟩
  | false =>
    cases hq : s.queue with
    | cons i rest => exact ⟨_, .receive i rest hl hs hq⟩
    | nil =>
      by_cases ha : s.alive = 0
      · exact ⟨_, .stop hl hs hq (by simp [hi.held, ha, hl])⟩
      · obtain ⟨p, hp, hh⟩ := List.countP_pos_iff.mp (Nat.pos_of_ne_zero ha)
        obtain ⟨i, hp⟩ := List.getElem?_of_mem hp
        cases p with
        | waiting =>
          by_cases h0 : s.permits = some 0
          · obtain ⟨j, q, hq, hj⟩ := hi.exists_holder h0
            exact hi.exists_step_of_holder hq hj
          · exact ⟨_, .fetch i hp h0⟩
        | fetching => exact hi.exists_step_of_holder hp rfl
        | sending b => exact hi.exists_step_of_holder hp rfl
        | done => cases hh

/-! ## The end -/

/-- Once the receiver has stopped, every entry has its task and every task is done. -/
theorem Inv.tasks_eq (hi : Inv requested limit s) (hs : s.stopped = true) :
    s.tasks = List.replicate requested .done := by
  obtain ⟨hl, -, h0⟩ := hi.ended hs
  rw [← hi.size, ← hi.launched hl]
  refine List.eq_replicate_length.mpr fun p hp => ?_
  have hh := hi.held
  have ha : s.alive = 0 := by omega
  have hn := List.countP_eq_zero.mp ha p hp
  simpa [Phase.holdsSender] using hn

theorem Inv.received_perm (hi : Inv requested limit s) (hs : s.stopped = true) :
    s.received.Perm (List.range requested) := by
  have hq := (hi.ended hs).2.1
  have hd := hi.delivered
  have ho := hi.once
  rw [hq, List.append_nil] at hd ho
  refine (List.perm_ext_iff_of_nodup ho List.nodup_range).mpr fun i => ?_
  rw [hd i, hi.tasks_eq hs, List.mem_range]
  simp [Delivered, List.getElem?_replicate, Phase.hasDelivered]

/-! ## Every run ends -/

/-- How many steps a task has still to take, the taking in of its outcome included while that is
not in the channel. -/
def stepsLeft : Phase → Nat
  | .waiting => 5
  | .fetching => 4
  | .sending false => 3
  | .sending true => 1
  | .done => 0

/-- How many steps are left in all. -/
def work (s : FanOut) : Nat :=
  6 * (s.requested - s.tasks.length) + (s.tasks.map stepsLeft).sum + s.queue.length +
    s.launching.toNat + (!s.stopped).toNat

theorem sum_stepsLeft_set {tasks : List Phase} {i : Nat} {p : Phase} (hi : tasks[i]? = some p)
    (q : Phase) :
    ((tasks.set i q).map stepsLeft).sum + stepsLeft p =
      (tasks.map stepsLeft).sum + stepsLeft q := by
  induction tasks generalizing i with
  | nil => simp at hi
  | cons p' ps ih =>
    cases i with
    | zero =>
      simp only [List.getElem?_cons_zero, Option.some.injEq] at hi
      subst hi
      simp only [List.set_cons_zero, List.map_cons, List.sum_cons]
      omega
    | succ i =>
      have := ih (i := i) (by simpa using hi)
      simp only [List.set_cons_succ, List.map_cons, List.sum_cons]
      omega

theorem Step.work_lt (h : Step s t) : t.work < s.work := by
  cases h with
  | launch hl hn =>
    simp only [work, List.map_append, List.sum_append, List.length_append, List.map_cons,
      List.map_nil, List.sum_cons, List.sum_nil, List.length_cons, List.length_nil, stepsLeft]
    omega
  | close hl hn => simp [work, hl]
  | fetch i hi _ =>
    have := sum_stepsLeft_set hi .fetching
    simp only [work, List.length_set, stepsLeft] at this ⊢
    omega
  | answer i hi =>
    have := sum_stepsLeft_set hi (.sending false)
    simp only [work, List.length_set, stepsLeft] at this ⊢
    omega
  | deliver i hi _ =>
    have := sum_stepsLeft_set hi (.sending true)
    simp only [work, List.length_set, List.length_append, List.length_cons, List.length_nil,
      stepsLeft] at this ⊢
    omega
  | finish i hi =>
    have := sum_stepsLeft_set hi .done
    simp only [work, List.length_set, stepsLeft] at this ⊢
    omega
  | receive i rest _ _ hq => simp [work, hq]
  | stop _ hs _ _ => simp [work, hs]

/-- No run goes on for ever, so by `Inv.exists_step` every run that is not cut off ends with the
receiver stopped. -/
theorem not_forall_step (run : Nat → FanOut) : ¬ ∀ k, Step (run k) (run (k + 1)) := by
  intro h
  have hk : ∀ k, (run k).work + k ≤ (run 0).work := by
    intro k
    induction k with
    | zero => exact Nat.le_refl _
    | succ k ih =>
      have := (h k).work_lt
      omega
  have := hk ((run 0).work + 1)
  omega

/-! ## All orders -/

/-- The entries of `front` are done and taken in one by one, and the others wait. -/
structure Idle (requested : Nat) (limit : Option Nat) (front : List Nat) (s : FanOut) : Prop where
  reachable : Reachable requested limit s
  launching : s.launching = false
  stopped : s.stopped = false
  permits : s.permits = Collection.bound limit
  queue : s.queue = []
  received : s.received = front
  tasks : ∀ i < requested, s.tasks[i]? = some (if i ∈ front then .done else .waiting)

theorem reachable_launched {k : Nat} (hk : k ≤ requested) :
    Reachable requested limit
      { start requested limit with tasks := List.replicate k .waiting, senders := k + 1 } := by
  induction k with
  | zero => exact .start
  | succ k ih =>
    have := (ih (by omega)).step (.launch rfl (by rw [List.length_replicate]; exact hk))
    rwa [← List.replicate_succ'] at this

theorem exists_idle_nil (requested : Nat) (limit : Option Nat) :
    ∃ s, Idle requested limit [] s := by
  refine ⟨_, (reachable_launched (Nat.le_refl requested)).step (.close rfl (by simp [start])),
    rfl, rfl, rfl, rfl, rfl, fun i hi => ?_⟩
  simp [hi]

/-- An entry that waits can go through while all others stand still. -/
theorem Idle.exists_next {front : List Nat} (h : Idle requested limit front s) {i : Nat}
    (hi : i < requested) (hn : i ∉ front) : ∃ t, Idle requested limit (front ++ [i]) t := by
  have hw : s.tasks[i]? = some .waiting := by rw [h.tasks i hi, if_neg hn]
  have hlt := (List.getElem?_eq_some_iff.mp hw).1
  have hsize := h.reachable.inv.size
  have hp : s.permits ≠ some 0 := by
    rw [h.permits, Collection.bound]
    intro h0
    simpa using (Option.filter_eq_some_iff.mp h0).2
  have r₁ := h.reachable.step (.fetch i hw hp)
  have r₂ := r₁.step (.answer i (List.getElem?_set_self hlt))
  have r₃ := r₂.step (.deliver i (List.getElem?_set_self (by simpa using hlt))
    (by simp [h.queue, hsize]; omega))
  have r₄ := r₃.step (.finish i (List.getElem?_set_self (by simpa using hlt)))
  have r₅ := r₄.step (.receive i [] h.launching h.stopped (by simp [h.queue]))
  refine ⟨_, r₅, h.launching, h.stopped, ?_, rfl, by simp [h.received], fun j hj => ?_⟩
  · -- The permit that was taken is back.
    rw [← h.permits]
    cases hs : s.permits with
    | none => rfl
    | some n =>
      have hn0 : n ≠ 0 := fun h0 => hp (by rw [hs, h0])
      simp only [Option.map_some, Option.some.injEq]
      omega
  · by_cases hji : j = i
    · subst hji
      simp [hlt]
    · simp [List.getElem?_set_ne (Ne.symm hji), h.tasks j hj, hji]

/-- The entries can go through in any order. -/
theorem Idle.exists_append {front back : List Nat} (h : Idle requested limit front s)
    (hn : (front ++ back).Nodup) (hb : ∀ i ∈ back, i < requested) :
    ∃ t, Idle requested limit (front ++ back) t := by
  induction back generalizing front s with
  | nil => exact ⟨s, by simpa using h⟩
  | cons i back ih =>
    have hni : i ∉ front := by
      intro hf
      exact (List.nodup_append.mp hn).2.2 i hf i List.mem_cons_self rfl
    obtain ⟨t, ht⟩ := h.exists_next (hb i List.mem_cons_self) hni
    rw [List.append_cons] at hn ⊢
    exact ih ht hn fun j hj => hb j (List.mem_cons_of_mem i hj)

/-- Every order that brings in each entry once is the order of some run, under every bound. -/
theorem exists_reachable_of_perm (limit : Option Nat) {order : List Nat}
    (h : order.Perm (List.range requested)) :
    ∃ s, Reachable requested limit s ∧ s.stopped = true ∧ s.received = order := by
  obtain ⟨s₀, h₀⟩ := exists_idle_nil requested limit
  have hnd : ([] ++ order).Nodup := h.nodup_iff.mpr List.nodup_range
  obtain ⟨s, hs⟩ := h₀.exists_append hnd fun i hi => List.mem_range.mp (h.mem_iff.mp hi)
  rw [List.nil_append] at hs
  have hi := hs.reachable.inv
  have hlen : s.tasks.length = requested := (hi.launched hs.launching).trans hi.size
  -- Every entry is in the order, so every task is done and its sender given back.
  have ha : s.alive = 0 := by
    refine List.countP_eq_zero.mpr fun p hp => ?_
    obtain ⟨i, hlt, rfl⟩ := List.getElem_of_mem hp
    have hmem : i ∈ order := h.mem_iff.mpr (List.mem_range.mpr (by omega))
    have ht := hs.tasks i (by omega)
    rw [List.getElem?_eq_getElem hlt, if_pos hmem, Option.some.injEq] at ht
    rw [ht]
    decide
  have h0 : s.senders = 0 := by simp [hi.held, ha, hs.launching]
  exact ⟨_, hs.reachable.step (.stop hs.launching hs.stopped hs.queue h0), rfl, hs.received⟩

/-- **All orders.** A way to arrive brings in one outcome of each contact if and only if runs of
the fan-out have these orders. -/
theorem complete_iff_reachable {arrival : Arrival} :
    arrival.Complete ↔ ∀ limit cs, ∃ s, Reachable cs.length limit s ∧ s.stopped = true ∧
      s.received = arrival limit cs := by
  constructor
  · intro h limit cs
    exact exists_reachable_of_perm limit (h limit cs)
  · intro h limit cs
    obtain ⟨s, hr, hs, he⟩ := h limit cs
    rw [← he]
    exact hr.inv.received_perm hs

/-- **The fan-out.** At every moment of every run: no more tasks hold permits than there are; the
channel holds no more outcomes than it has room for, and a task that is about to deliver finds
room; as long as the receiver has not stopped, somebody can go on; and when it has, every task is
done and each outcome was taken in once. -/
theorem reachable_bounded_live_complete (requested : Nat) (limit : Option Nat) (s : FanOut)
    (h : Reachable requested limit s) :
    (∀ n, Collection.bound limit = some n → s.holders ≤ n) ∧
    (s.requested = requested ∧ s.queue.length ≤ s.requested ∧
      ∀ i : Nat, s.tasks[i]? = some (.sending false) → s.queue.length < s.requested) ∧
    (s.stopped = false → ∃ t, Step s t) ∧
    (s.stopped = true →
      s.tasks = List.replicate requested .done ∧ s.received.Perm (List.range requested)) := by
  have hi := h.inv
  refine ⟨fun n hn => hi.holders_le hn, ⟨hi.size, ?_, fun i hw => ?_⟩, hi.exists_step,
    fun hs => ?_⟩
  · rw [hi.size]
    exact hi.length_queue_le
  · rw [hi.size]
    exact hi.length_queue_lt hw
  · exact ⟨hi.tasks_eq hs, hi.received_perm hs⟩

/-- Two entries with one permit: a run that takes in the second outcome before the first. -/
theorem reachable_complete_with_one_permit :
    ∃ s, Reachable 2 (some 1) s ∧ s.stopped = true ∧ s.received = [1, 0] ∧
      s.tasks = List.replicate 2 .done ∧ s.received.Perm (List.range 2) := by
  have hp : [1, 0].Perm (List.range 2) := by decide
  obtain ⟨s, hr, hs, ho⟩ := exists_reachable_of_perm (some 1) hp
  exact ⟨s, hr, hs, ho, (reachable_bounded_live_complete 2 (some 1) s hr).2.2.2 hs⟩

end StarSurvey.FanOut
