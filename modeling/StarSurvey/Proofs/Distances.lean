import Mathlib.Data.List.FinRange
import Mathlib.Data.Nat.Choose.Basic
import Mathlib.Tactic.NormNum
import StarSurvey.Stats

/-!
# The mean distance

- **Pairs** (`pairs`): the pairs of two places of a list, each once and in lexicographic order, and how
  many there are (`length_pairs`).
- **The sum** (`distanceSum_eq_foldl_pairs`): the two nested loops go through the pairs one after the
  other. The terms are added in this order from left to right; nothing is rearranged.
- **The divisor** (`pairCount_eq_length_pairs`): in words of 64 bits the pairs of up to `2^32` records
  are counted exactly.
- **The mean** (`meanDistance?_eq_sum_of_pairs`).
-/

namespace StarSurvey.Stats

/-! ## Pairs -/

/-- The pairs of two places of a list, the earlier place in front, in lexicographic order. -/
def pairs (n : ℕ) : List (Fin n × Fin n) :=
  (List.finRange n).flatMap fun i => ((List.finRange n).filter (i < ·)).map fun j => (i, j)

theorem mem_pairs {n : ℕ} {p : Fin n × Fin n} : p ∈ pairs n ↔ p.1 < p.2 := by
  obtain ⟨i, j⟩ := p
  simp [pairs]

theorem pairwise_pairs (n : ℕ) : (pairs n).Pairwise (Prod.Lex (· < ·) (· < ·)) := by
  rw [pairs, List.pairwise_flatMap]
  constructor
  · intro i _
    rw [List.pairwise_map]
    exact ((List.pairwise_lt_finRange n).filter _).imp fun h => .right _ h
  · refine (List.pairwise_lt_finRange n).imp fun hij p hp q hq => ?_
    obtain ⟨_, -, rfl⟩ := List.mem_map.mp hp
    obtain ⟨_, -, rfl⟩ := List.mem_map.mp hq
    exact .left _ _ hij

/-- Each pair stands there once, if the earlier place is in front. -/
theorem count_pairs {n : ℕ} (i j : Fin n) : (pairs n).count (i, j) = if i < j then 1 else 0 := by
  have hnodup : (pairs n).Nodup := (pairwise_pairs n).imp fun {p q} h hpq => by
    subst hpq
    cases h with
    | left _ _ h => exact lt_irrefl _ h
    | right _ h => exact lt_irrefl _ h
  rw [hnodup.count]
  simp only [mem_pairs]

/-- With one more place in front, the pairs with this place come first. -/
theorem pairs_succ (n : ℕ) :
    pairs (n + 1) = (List.finRange n).map (fun j => (0, j.succ)) ++
      (pairs n).map fun p => (p.1.succ, p.2.succ) := by
  have hfirst : (List.finRange (n + 1)).filter ((0 : Fin (n + 1)) < ·) =
      (List.finRange n).map Fin.succ := by
    rw [List.finRange_succ, List.filter_cons_of_neg (by simp), List.filter_map]
    simp [Function.comp_def]
  have hlater : ∀ i : Fin n, (List.finRange (n + 1)).filter (i.succ < ·) =
      ((List.finRange n).filter (i < ·)).map Fin.succ := by
    intro i
    rw [List.finRange_succ, List.filter_cons_of_neg (by simp), List.filter_map]
    simp [Function.comp_def]
  rw [pairs, List.finRange_succ, List.flatMap_cons, ← List.finRange_succ, hfirst, List.map_map,
    List.flatMap_map, pairs, List.map_flatMap]
  simp only [hlater, List.map_map]
  rfl

theorem length_pairs (n : ℕ) : (pairs n).length = n * (n - 1) / 2 := by
  induction n with
  | zero => rfl
  | succ n ih =>
    rw [pairs_succ, List.length_append, List.length_map, List.length_map, List.length_finRange, ih,
      Nat.triangle_succ, Nat.add_comm]

/-! ## The sum -/

/-- The nested loops add up the distances of the pairs in their order. -/
theorem distanceSum_eq_foldl_pairs (acc : Float) (records : List Record) :
    distanceSum acc records = (pairs records.length).foldl
      (fun sum p => sum + records[p.1].distance records[p.2]) acc := by
  induction records generalizing acc with
  | nil => rfl
  | cons r rs ih =>
    have hfirst : rs.foldl (fun sum s => sum + r.distance s) acc =
        (List.finRange rs.length).foldl (fun sum j => sum + r.distance rs[j]) acc := by
      conv_lhs => rw [← List.map_get_finRange rs, List.foldl_map]
      rfl
    rw [distanceSum, ih, hfirst]
    show _ = (pairs (rs.length + 1)).foldl _ acc
    rw [pairs_succ, List.foldl_append, List.foldl_map, List.foldl_map]
    rfl

/-! ## The divisor -/

/-- In words the product is that of the numbers, but for what does not fit. -/
theorem pairCount_eq (n : ℕ) : pairCount n = n * (n - 1) % 2 ^ 64 / 2 := by
  have hword : (n.toUInt64 * (n.toUInt64 - 1)).toNat = n * (n - 1) % 2 ^ 64 := by
    cases n with
    | zero => rfl
    | succ k =>
      have hpred : (k + 1).toUInt64 - 1 = k.toUInt64 := by
        rw [← UInt64.toNat_inj, UInt64.toNat_sub]
        show (2 ^ 64 - 1 % 2 ^ 64 + (k + 1) % 2 ^ 64) % 2 ^ 64 = k % 2 ^ 64
        omega
      rw [hpred, UInt64.toNat_mul]
      show (k + 1) % 2 ^ 64 * (k % 2 ^ 64) % 2 ^ 64 = _
      rw [← Nat.mul_mod, Nat.add_sub_cancel]
  show (n.toUInt64 * (n.toUInt64 - 1) / 2).toNat = _
  rw [UInt64.toNat_div, hword]
  rfl

/-- Of up to `2^32` places the product fits. -/
theorem mul_pred_lt {n : ℕ} (h : n ≤ 2 ^ 32) : n * (n - 1) < 2 ^ 64 := by
  calc n * (n - 1) ≤ 2 ^ 32 * (2 ^ 32 - 1) := Nat.mul_le_mul h (by omega)
    _ < 2 ^ 64 := by norm_num

theorem pairCount_eq_length_pairs {n : ℕ} (h : n * (n - 1) < 2 ^ 64) :
    pairCount n = (pairs n).length := by
  rw [pairCount_eq, Nat.mod_eq_of_lt h, length_pairs]

/-! ## The mean -/

/-- **The mean.** There is none of fewer than two records. Of others it is a quotient: the distances
of all pairs, added from left to right in lexicographic order, by the count of the pairs. Each pair of
two places is among the terms once, with the earlier one in front, and no place is paired with
itself. Of up to `2^32` records the product from which the pairs are counted fits into a word, and the
count is the number of the terms. -/
theorem meanDistance?_eq_sum_of_pairs (records : List Record) :
    let n := records.length
    let sum := (pairs n).foldl (fun sum p => sum + records[p.1].distance records[p.2]) 0
    meanDistance? records = (if n < 2 then none else some (sum / Float.ofNat (pairCount n))) ∧
    (∀ i j, (pairs n).count (i, j) = if i < j then 1 else 0) ∧
    (pairs n).Pairwise (Prod.Lex (· < ·) (· < ·)) ∧
    ∀ k ≤ 2 ^ 32, k * (k - 1) < 2 ^ 64 ∧ pairCount k = k * (k - 1) / 2 ∧
      k * (k - 1) / 2 = (pairs k).length := by
  intro n sum
  refine ⟨?_, count_pairs, pairwise_pairs n, fun k hk => ?_⟩
  · have hsum : distanceSum 0 records = sum := distanceSum_eq_foldl_pairs 0 records
    rw [← hsum]
    rfl
  · have hfits := mul_pred_lt hk
    exact ⟨hfits, (pairCount_eq_length_pairs hfits).trans (length_pairs k), (length_pairs k).symm⟩

/-- A triangle with sides of three, four and five. -/
theorem meanDistance?_of_a_triangle :
    let corner (x y : Float) : Record :=
      ⟨"", ⟨.g, ""⟩, ⟨x, y, 0⟩, ⟨0, 0, 0, by decide, by decide, by decide⟩⟩
    meanDistance? [corner 0 0, corner 3 0, corner 0 4] = some 4 ∧ pairCount 3 = (pairs 3).length := by
  intro corner
  obtain ⟨hmean, -, -, hcount⟩ :=
    meanDistance?_eq_sum_of_pairs [corner 0 0, corner 3 0, corner 0 4]
  obtain ⟨-, hpairs, hlength⟩ := hcount 3 (by decide)
  refine ⟨hmean.trans ?_, hpairs.trans hlength⟩
  decide +kernel

end StarSurvey.Stats
