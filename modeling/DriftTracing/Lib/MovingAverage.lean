import DriftTracing.Lib.FlooredMean
import Mathlib.Algebra.BigOperators.Intervals
import Mathlib.Algebra.BigOperators.Ring.Finset
import Mathlib.Algebra.Order.Ring.Abs
import Mathlib.Tactic.FieldSimp
import Mathlib.Tactic.Positivity

/-!
# Exponentially weighted moving averages

`movingAverage n start x` takes the values `x 0`, `x 1`, ... one after another into an
average, `n - 1` parts of it to one part of the value, over any ordered field. It is
linear in its start and its values, with weights that add up to 1, so it is no further
from another average than start and values are, and it forgets its start at a fixed
rate. An average that is rounded at every step stays within `n` times the rounding of a
step, however many steps it takes; one kept in integers and rounded down stays less than
`n` behind.
-/
namespace DriftTracing.Lib

variable {K : Type} [Field K]

def weightedMean (n old new : K) : K := (old * (n - 1) + new) / n

def movingAverage (n start : K) (x : Nat → K) : Nat → K
  | 0 => start
  | k + 1 => weightedMean n (movingAverage n start x k) (x k)

@[simp] theorem movingAverage_zero (n start : K) (x : Nat → K) :
    movingAverage n start x 0 = start := rfl

theorem movingAverage_succ (n start : K) (x : Nat → K) (k : Nat) :
    movingAverage n start x (k + 1) = weightedMean n (movingAverage n start x k) (x k) := rfl

/-- The mean as the update by the `n`-th part. -/
theorem weightedMean_eq {n : K} (nonzero : n ≠ 0) (old new : K) :
    weightedMean n old new = (1 - 1 / n) * old + 1 / n * new := by
  unfold weightedMean
  field_simp

/-- Every value has a weight that decays with its age. -/
theorem movingAverage_eq_sum {n : K} (nonzero : n ≠ 0) (start : K) (x : Nat → K) (k : Nat) :
    movingAverage n start x k = (1 - 1 / n) ^ k * start +
      ∑ j ∈ Finset.range k, 1 / n * (1 - 1 / n) ^ (k - 1 - j) * x j := by
  induction k with
  | zero => simp
  | succ k ih =>
    have aged : ∑ j ∈ Finset.range k, 1 / n * (1 - 1 / n) ^ (k - j) * x j =
        (1 - 1 / n) * ∑ j ∈ Finset.range k, 1 / n * (1 - 1 / n) ^ (k - 1 - j) * x j := by
      rw [Finset.mul_sum]
      apply Finset.sum_congr rfl
      intro j hj
      rw [Finset.mem_range] at hj
      have older : k - j = k - 1 - j + 1 := by omega
      rw [older, pow_succ]
      ring
    rw [movingAverage_succ, weightedMean_eq nonzero, ih, Finset.sum_range_succ,
      Nat.add_sub_cancel, aged]
    simp only [Nat.sub_self, pow_zero]
    ring

/-- Averages of the same values from different starts. -/
theorem movingAverage_forgets {n : K} (nonzero : n ≠ 0) (start start' : K) (x : Nat → K)
    (k : Nat) :
    movingAverage n start x k - movingAverage n start' x k =
      (1 - 1 / n) ^ k * (start - start') := by
  rw [movingAverage_eq_sum nonzero, movingAverage_eq_sum nonzero]
  ring

section Ordered

variable [LinearOrder K] [IsStrictOrderedRing K] {n start start' δ : K} {x x' : Nat → K}

theorem weightedMean_mono (weight : 1 ≤ n) {old old' new new' : K} (older : old ≤ old')
    (newer : new ≤ new') : weightedMean n old new ≤ weightedMean n old' new' := by
  have kept : old * (n - 1) ≤ old' * (n - 1) :=
    mul_le_mul_of_nonneg_right older (sub_nonneg.mpr weight)
  exact div_le_div_of_nonneg_right (add_le_add kept newer) (by linarith)

/-- A shift of both values is a shift of the mean. -/
theorem weightedMean_add (weight : 1 ≤ n) (old new d : K) :
    weightedMean n (old + d) (new + d) = weightedMean n old new + d := by
  have nonzero : n ≠ 0 := by linarith
  rw [weightedMean_eq nonzero, weightedMean_eq nonzero]
  ring

theorem movingAverage_mono (weight : 1 ≤ n) {k : Nat} (start_le : start ≤ start')
    (le : ∀ j < k, x j ≤ x' j) : movingAverage n start x k ≤ movingAverage n start' x' k := by
  induction k with
  | zero => exact start_le
  | succ k ih =>
    exact weightedMean_mono weight (ih fun j hj => le j (by omega)) (le k (Nat.lt_succ_self k))

theorem movingAverage_add (weight : 1 ≤ n) (start d : K) (x : Nat → K) (k : Nat) :
    movingAverage n (start + d) (fun j => x j + d) k = movingAverage n start x k + d := by
  induction k with
  | zero => rfl
  | succ k ih => rw [movingAverage_succ, ih, weightedMean_add weight, movingAverage_succ]

/-- Values that are near give averages that are as near. -/
theorem movingAverage_near (weight : 1 ≤ n) {k : Nat} (first : |start - start'| ≤ δ)
    (near : ∀ j < k, |x j - x' j| ≤ δ) :
    |movingAverage n start x k - movingAverage n start' x' k| ≤ δ := by
  rw [abs_sub_le_iff] at first
  have below : movingAverage n start x k ≤ movingAverage n (start' + δ) (fun j => x' j + δ) k :=
    movingAverage_mono weight (by linarith [first.1]) fun j hj => by
      linarith [(abs_sub_le_iff.mp (near j hj)).1]
  have above : movingAverage n start' x' k ≤ movingAverage n (start + δ) (fun j => x j + δ) k :=
    movingAverage_mono weight (by linarith [first.2]) fun j hj => by
      linarith [(abs_sub_le_iff.mp (near j hj)).2]
  rw [movingAverage_add weight] at below above
  rw [abs_sub_le_iff]
  constructor
  · linarith
  · linarith

/-- What a step keeps of the average before it. -/
theorem kept_nonneg (weight : 1 ≤ n) : 0 ≤ 1 - 1 / n := by
  have positive : 0 < n := by linarith
  exact sub_nonneg.mpr ((div_le_one positive).mpr weight)

/-- An error of a step is only kept in part: together they stay within `n` times the
error of one. -/
theorem movingAverage_rounded (weight : 1 ≤ n) {y : Nat → K} {ε : K} {k : Nat}
    (first : |y 0 - start| ≤ n * ε)
    (rounded : ∀ j < k, |y (j + 1) - weightedMean n (y j) (x j)| ≤ ε) :
    |y k - movingAverage n start x k| ≤ n * ε := by
  have nonzero : n ≠ 0 := by linarith
  induction k with
  | zero => exact first
  | succ k ih =>
    have before := ih fun j hj => rounded j (by omega)
    have step := rounded k (Nat.lt_succ_self k)
    rw [movingAverage_succ]
    have kept : weightedMean n (y k) (x k) - weightedMean n (movingAverage n start x k) (x k) =
        (1 - 1 / n) * (y k - movingAverage n start x k) := by
      rw [weightedMean_eq nonzero, weightedMean_eq nonzero]
      ring
    have part : |(1 - 1 / n) * (y k - movingAverage n start x k)| ≤ (1 - 1 / n) * (n * ε) := by
      rw [abs_mul, abs_of_nonneg (kept_nonneg weight)]
      exact mul_le_mul_of_nonneg_left before (kept_nonneg weight)
    calc |y (k + 1) - weightedMean n (movingAverage n start x k) (x k)|
        ≤ |y (k + 1) - weightedMean n (y k) (x k)| +
            |weightedMean n (y k) (x k) - weightedMean n (movingAverage n start x k) (x k)| :=
          abs_sub_le ..
      _ ≤ ε + (1 - 1 / n) * (n * ε) := add_le_add step (kept ▸ part)
      _ = n * ε := by
        field_simp
        ring

end Ordered

section Floored

variable [LinearOrder K] [IsStrictOrderedRing K] {n : Int} {z x : Nat → Int}

/-- Rounding a quotient down loses at most `1 - 1 / n`. -/
theorem ediv_bounds (positive : 0 < n) (a : Int) :
    ((a / n : Int) : K) ≤ (a : K) / n ∧ (a : K) / n ≤ (a / n : Int) + (1 - 1 / (n : K)) := by
  have scale : (0 : K) < n := by exact_mod_cast positive
  have split := Int.emod_add_mul_ediv a n
  have low := Int.emod_nonneg a (by omega : n ≠ 0)
  have high := Int.emod_lt_of_pos a positive
  have below : n * (a / n) ≤ a := by omega
  have above : a ≤ n * (a / n) + (n - 1) := by omega
  have below : (n : K) * (a / n : Int) ≤ a := by exact_mod_cast below
  have above : (a : K) ≤ n * (a / n : Int) + (n - 1) := by exact_mod_cast above
  constructor
  · rw [le_div_iff₀ scale]
    linarith
  · rw [div_le_iff₀ scale]
    have part : (1 - 1 / (n : K)) * n = n - 1 := by field_simp
    linarith

theorem flooredMean_bounds (positive : 0 < n) (old new : Int) :
    (flooredMean n old new : K) ≤ weightedMean (n : K) old new ∧
      weightedMean (n : K) old new ≤ flooredMean n old new + (1 - 1 / (n : K)) := by
  have bounds := @ediv_bounds K _ _ _ n positive (old * (n - 1) + new)
  push_cast at bounds
  exact bounds

/-- Rounding down loses less than 1 at a step, and a loss from before is only kept in
part: together they stay less than `n`. -/
theorem movingAverage_trails (positive : 0 < n) {start : K} {k : Nat}
    (first : 0 ≤ start - z 0 ∧ start - z 0 ≤ n - 1)
    (floored : ∀ j < k, z (j + 1) = flooredMean n (z j) (x j)) :
    0 ≤ movingAverage (n : K) start (fun j => x j) k - z k ∧
      movingAverage (n : K) start (fun j => x j) k - z k ≤ n - 1 := by
  have weight : (1 : K) ≤ n := by exact_mod_cast positive
  have nonzero : (n : K) ≠ 0 := by linarith
  induction k with
  | zero => exact first
  | succ k ih =>
    obtain ⟨ahead, near⟩ := ih fun j hj => floored j (by omega)
    have lost := @flooredMean_bounds K _ _ _ n positive (z k) (x k)
    rw [floored k (Nat.lt_succ_self k), movingAverage_succ]
    generalize movingAverage (n : K) start (fun j => (x j : K)) k = a at ahead near ⊢
    have kept : weightedMean (n : K) a (x k) =
        weightedMean (n : K) (z k) (x k) + (1 - 1 / n) * (a - z k) := by
      rw [weightedMean_eq nonzero, weightedMean_eq nonzero]
      ring
    have decay := kept_nonneg weight
    have part : (1 - 1 / (n : K)) * (a - z k) ≤ (1 - 1 / n) * (n - 1) :=
      mul_le_mul_of_nonneg_left near decay
    have whole : (1 - 1 / (n : K)) * (n - 1) + (1 - 1 / n) = n - 1 := by
      field_simp
      ring
    have nonneg : 0 ≤ (1 - 1 / (n : K)) * (a - z k) := mul_nonneg decay ahead
    rw [kept]
    constructor
    · linarith [lost.1]
    · linarith [lost.2]

end Floored

end DriftTracing.Lib
