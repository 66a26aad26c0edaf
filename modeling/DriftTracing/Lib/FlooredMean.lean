import Mathlib.Algebra.Order.Floor.Ring
import Mathlib.Data.Int.ModEq
import Mathlib.Data.Rat.Floor
import Mathlib.Tactic.Linarith
import Mathlib.Tactic.Ring

/-!
# Floored weighted means

`flooredMean n old new` keeps `n - 1` parts of an old value and takes one part of a
new one, rounded down. It lies between the two, and leaves the old value alone
exactly when the new one is less than `n` above it. Repeated with one and the same
new value it moves toward it without passing it, and settles less than `n` below it,
or on it when it comes from above. For a power of two `n` it can be computed in
wrapping unsigned arithmetic that is wider than the result.
-/
namespace DriftTracing.Lib

def flooredMean (n old new : Int) : Int := (old * (n - 1) + new) / n

variable {n old new : Int}

theorem le_flooredMean_iff (positive : 0 < n) (x : Int) :
    x ≤ flooredMean n old new ↔ x * n ≤ old * n + (new - old) := by
  rw [flooredMean, Int.le_ediv_iff_mul_le positive]
  have : old * (n - 1) + new = old * n + (new - old) := by ring
  rw [this]

/-- The mean stays with the old value as long as the new one is not below it and
less than `n` above it. -/
theorem flooredMean_eq_old_iff (positive : 0 < n) :
    flooredMean n old new = old ↔ old ≤ new ∧ new < old + n := by
  have reached := @le_flooredMean_iff n old new positive old
  have passed := @le_flooredMean_iff n old new positive (old + 1)
  have expand : (old + 1) * n = old * n + n := by ring
  rw [expand] at passed
  omega

theorem flooredMean_between (positive : 0 < n) :
    min old new ≤ flooredMean n old new ∧ flooredMean n old new ≤ max old new := by
  have scale (x y : Int) (h : x ≤ y) : (y - x) ≤ (y - x) * n :=
    le_mul_of_one_le_right (by omega) (by omega)
  rcases Int.le_total old new with le | le
  · rw [min_eq_left le, max_eq_right le]
    refine ⟨(le_flooredMean_iff positive _).mpr (by omega), ?_⟩
    by_contra above
    have := (@le_flooredMean_iff n old new positive (new + 1)).mp (by omega)
    have := scale old new le
    have expand : (new + 1) * n = old * n + (new - old) * n + n := by ring
    omega
  · rw [min_eq_right le, max_eq_left le]
    constructor
    · rw [le_flooredMean_iff positive]
      have := scale new old le
      have expand : new * n = old * n - (old - new) * n := by ring
      omega
    · by_contra above
      have := (@le_flooredMean_iff n old new positive (old + 1)).mp (by omega)
      have expand : (old + 1) * n = old * n + n := by ring
      omega

theorem flooredMean_mono (positive : 0 < n) {old' new' : Int} (older : old ≤ old')
    (newer : new ≤ new') : flooredMean n old new ≤ flooredMean n old' new' := by
  have weight : old * (n - 1) ≤ old' * (n - 1) := Int.mul_le_mul_of_nonneg_right older (by omega)
  exact Int.ediv_le_ediv positive (by omega)

theorem flooredMean_eq_floor (n : Nat) (old new : Int) :
    flooredMean n old new = ⌊((old * (n - 1) + new : Int) : ℚ) / n⌋ :=
  (Rat.floor_intCast_div_natCast ..).symm

/-- The mean moves by at most the `n`-th part of the distance, rounded up. -/
theorem natAbs_flooredMean_sub_le (positive : 0 < n) :
    |flooredMean n old new - old| ≤ ⌈((|new - old| : Int) : ℚ) / n⌉ := by
  have scale : (0 : ℚ) < n := by exact_mod_cast positive
  have moved : flooredMean n old new - old = (new - old) / n := by
    have expand : old * (n - 1) + new = (new - old) + old * n := by ring
    rw [flooredMean, expand, Int.add_mul_ediv_right _ _ (by omega)]
    omega
  have ceiling : ((|new - old| : Int) : ℚ) ≤ ⌈((|new - old| : Int) : ℚ) / n⌉ * n := by
    rw [← div_le_iff₀ scale]
    exact Int.le_ceil _
  have reach : |new - old| ≤ ⌈((|new - old| : Int) : ℚ) / n⌉ * n := by exact_mod_cast ceiling
  generalize ⌈((|new - old| : Int) : ℚ) / n⌉ = c at reach ⊢
  rw [moved, abs_le]
  constructor
  · rw [Int.le_ediv_iff_mul_le positive]
    have := neg_abs_le (new - old)
    have expand : -c * n = -(c * n) := by ring
    omega
  · have := le_abs_self (new - old)
    exact Int.ediv_le_of_le_mul positive (by omega)

section Repeated

variable {x : Nat → Int} {start k : Nat}

/-- From `start` on, every value is the mean of the one before and `new`. -/
def Repeats (n new : Int) (x : Nat → Int) (start : Nat) : Prop :=
  ∀ k, start ≤ k → x (k + 1) = flooredMean n (x k) new

theorem Repeats.between (h : Repeats n new x start) (positive : 0 < n) (hk : start ≤ k) :
    min (x k) new ≤ x (k + 1) ∧ x (k + 1) ≤ max (x k) new := by
  rw [h k hk]
  exact flooredMean_between positive

theorem Repeats.rises (h : Repeats n new x start) (positive : 0 < n) (below : x start ≤ new)
    (hk : start ≤ k) : x k ≤ x (k + 1) ∧ x (k + 1) ≤ new := by
  induction k, hk using Nat.le_induction with
  | base =>
    have step := h.between positive (Nat.le_refl start)
    omega
  | succ k hk ih =>
    have step := h.between positive (show start ≤ k + 1 by omega)
    omega

theorem Repeats.falls (h : Repeats n new x start) (positive : 0 < n) (above : new ≤ x start)
    (hk : start ≤ k) : new ≤ x (k + 1) ∧ x (k + 1) ≤ x k := by
  induction k, hk using Nat.le_induction with
  | base =>
    have step := h.between positive (Nat.le_refl start)
    omega
  | succ k hk ih =>
    have step := h.between positive (show start ≤ k + 1 by omega)
    omega

/-- A value that does not move has settled. -/
theorem Repeats.constant (h : Repeats n new x start) (still : x (start + 1) = x start)
    (hk : start ≤ k) : x k = x start := by
  have fixed : flooredMean n (x start) new = x start := by
    rw [← h start (Nat.le_refl _), still]
  induction k, hk using Nat.le_induction with
  | base => rfl
  | succ k hk ih => rw [h k hk, ih, fixed]

/-- Every step that moves brings the value nearer, so there is a last one. -/
theorem Repeats.settles (h : Repeats n new x start) (positive : 0 < n) :
    ∃ late, start ≤ late ∧ (∀ k, late ≤ k → x k = x late) ∧
      x late ≤ new ∧ new < x late + n := by
  induction distance : (new - x start).natAbs using Nat.strong_induction_on generalizing start with
  | _ d ih =>
    by_cases still : x (start + 1) = x start
    · refine ⟨start, Nat.le_refl _, fun k hk => h.constant still hk, ?_⟩
      rw [h start (Nat.le_refl _)] at still
      exact (flooredMean_eq_old_iff positive).mp still
    · have step := h.between positive (Nat.le_refl start)
      have nearer : (new - x (start + 1)).natAbs < d := by omega
      have rest : Repeats n new x (start + 1) := fun k hk => h k (by omega)
      obtain ⟨late, later, constant, low, high⟩ := ih _ nearer rest rfl
      exact ⟨late, by omega, constant, low, high⟩

end Repeated

/-- Dividing the image modulo `2^64` by a power of two up to `2^32` loses only
multiples of `2^32`. -/
theorem wrapped_shift_modEq (s : Int) {k : Nat} (hk : k ≤ 32) :
    s % 2 ^ 64 / 2 ^ k ≡ s / 2 ^ k [ZMOD 2 ^ 32] := by
  have split : s = s % 2 ^ 64 + 2 ^ k * (2 ^ (64 - k) * (s / 2 ^ 64)) := by
    rw [← mul_assoc, ← pow_add, Nat.add_sub_cancel' (by omega), Int.emod_add_mul_ediv]
  have shifted : s / 2 ^ k = s % 2 ^ 64 / 2 ^ k + 2 ^ (64 - k) * (s / 2 ^ 64) := by
    conv_lhs => rw [split]
    rw [Int.add_mul_ediv_left _ _ (by positivity)]
  rw [shifted]
  have wide : (2 : Int) ^ 32 ∣ 2 ^ (64 - k) * (s / 2 ^ 64) :=
    Dvd.dvd.mul_right (pow_dvd_pow 2 (by omega)) _
  have dropped := (Int.modEq_zero_iff_dvd.mpr wide).symm.add_left (s % 2 ^ 64 / 2 ^ k)
  rwa [add_zero] at dropped

end DriftTracing.Lib
