import DriftTracing.Lib.FlooredMean
import DriftTracing.Source.AckWindow
import Mathlib.Data.UInt

/-!
# Path metrics

app/path.hpp and the running averages of app/utils.hpp. `size_t` is 64 bits wide:
the average of two `int` values is computed in wrapping unsigned arithmetic, the
operands sign-extended, and the quotient is cut back to `int`.
-/
namespace DriftTracing.Source
open DriftTracing.Lib

/-- Running moving average (RMA), with `ValueType` `int`. -/
def avgRma (n : UInt64) (oldValue newValue : Int32) : Int32 :=
  toInt ((UInt64.ofInt oldValue.toInt * (n - 1) + UInt64.ofInt newValue.toInt) / n).toNat

/-- `ack_records` has 1024 slots. -/
@[ext] structure PathMetrics where
  rtt : Int32 := 0
  rttVar : Int32 := 0
  ackRecords : AckWindow 1024 := AckWindow.fresh 1024
  deriving DecidableEq

/-- Both values are `int`, so their mean is. -/
theorem flooredMean_range {n : Int} (positive : 0 < n) (oldValue newValue : Int32) :
    -2 ^ 31 ≤ flooredMean n oldValue.toInt newValue.toInt ∧
      flooredMean n oldValue.toInt newValue.toInt < 2 ^ 31 := by
  have between := @flooredMean_between n oldValue.toInt newValue.toInt positive
  have := oldValue.le_toInt
  have := oldValue.toInt_lt
  have := newValue.le_toInt
  have := newValue.toInt_lt
  omega

/-- For the powers of two up to `2^32` the wrapping computation is the floored
mean, negative values included. -/
theorem avgRma_toInt {k : Nat} (hk : k ≤ 32) (oldValue newValue : Int32) :
    (avgRma (UInt64.ofInt (2 ^ k)) oldValue newValue).toInt =
      flooredMean (2 ^ k) oldValue.toInt newValue.toInt := by
  have small : (2 : Int) ^ k ≤ 2 ^ 32 := pow_le_pow_right₀ (by decide) hk
  have positive : (0 : Int) < 2 ^ k := by positivity
  have less : UInt64.ofInt (2 ^ k) - 1 = UInt64.ofInt (2 ^ k - 1) := by
    rw [Int.sub_eq_add_neg, UInt64.ofInt_add, UInt64.ofInt_neg_one, UInt64.sub_eq_add_neg]
  have toNat_ofInt (x : Int) : ((UInt64.ofInt x).toNat : Int) = x % 2 ^ 64 := by
    rw [UInt64.ofInt, UInt64.toNat_ofNat']
    omega
  obtain ⟨low, high⟩ := flooredMean_range positive oldValue newValue
  rw [avgRma, less, ← UInt64.ofInt_mul, ← UInt64.ofInt_add, toInt, Int32.toInt_ofInt,
    UInt64.toNat_div, Int.natCast_ediv, toNat_ofInt, toNat_ofInt,
    Int.emod_eq_of_lt positive.le (by omega)]
  -- the quotients agree modulo 2^32 only, which is all the cut back to `int` keeps
  have congruent : _ % ((Int32.size : Nat) : Int) =
      flooredMean (2 ^ k) oldValue.toInt newValue.toInt % ((Int32.size : Nat) : Int) :=
    wrapped_shift_modEq _ hk
  rw [← Int.emod_bmod, congruent, Int.emod_bmod]
  exact Int.bmod_eq_of_le low high

/-- The average over a window of `2^k` is the weighted mean rounded down. It lies
between its arguments and is monotone in both. -/
theorem avgRma_exact {k : Nat} (hk : k ≤ 32) (oldValue newValue : Int32) :
    (avgRma (UInt64.ofNat (2 ^ k)) oldValue newValue).toInt =
        ⌊((oldValue.toInt * (2 ^ k - 1) + newValue.toInt : Int) : ℚ) / 2 ^ k⌋ ∧
      min oldValue.toInt newValue.toInt ≤
        (avgRma (UInt64.ofNat (2 ^ k)) oldValue newValue).toInt ∧
      (avgRma (UInt64.ofNat (2 ^ k)) oldValue newValue).toInt ≤
        max oldValue.toInt newValue.toInt ∧
      ∀ oldValue' newValue', oldValue ≤ oldValue' → newValue ≤ newValue' →
        avgRma (UInt64.ofNat (2 ^ k)) oldValue newValue ≤
          avgRma (UInt64.ofNat (2 ^ k)) oldValue' newValue' := by
  have positive : (0 : Int) < 2 ^ k := by positivity
  have small : (2 : Int) ^ k ≤ 2 ^ 32 := pow_le_pow_right₀ (by simp) hk
  have window : UInt64.ofNat (2 ^ k) = UInt64.ofInt (2 ^ k) := by
    rw [UInt64.ofInt, Int.emod_eq_of_lt positive.le (by omega)]
    norm_cast
  rw [window, avgRma_toInt hk]
  have floor := flooredMean_eq_floor (2 ^ k) oldValue.toInt newValue.toInt
  push_cast at floor
  obtain ⟨low, high⟩ := @flooredMean_between (2 ^ k) oldValue.toInt newValue.toInt positive
  refine ⟨?_, low, high, fun oldValue' newValue' older newer => ?_⟩
  · rw [floor]
    push_cast
    rfl
  · rw [Int32.le_iff_toInt_le, avgRma_toInt hk, avgRma_toInt hk]
    exact flooredMean_mono positive (Int32.le_iff_toInt_le.mp older)
      (Int32.le_iff_toInt_le.mp newer)

theorem avgRma_exact_below_zero :
    (avgRma (UInt64.ofNat (2 ^ 3)) (-5) 2).toInt =
        ⌊((Int32.toInt (-5) * (2 ^ 3 - 1) + Int32.toInt 2 : Int) : ℚ) / 2 ^ 3⌋ ∧
      min (Int32.toInt (-5)) (Int32.toInt 2) ≤ (avgRma (UInt64.ofNat (2 ^ 3)) (-5) 2).toInt ∧
      (avgRma (UInt64.ofNat (2 ^ 3)) (-5) 2).toInt ≤ max (Int32.toInt (-5)) (Int32.toInt 2) ∧
      ∀ oldValue' newValue', -5 ≤ oldValue' → 2 ≤ newValue' →
        avgRma (UInt64.ofNat (2 ^ 3)) (-5) 2 ≤
          avgRma (UInt64.ofNat (2 ^ 3)) oldValue' newValue' :=
  avgRma_exact (by simp) (-5) 2

/-- The divisors of the RTT and of its variance. -/
theorem eight_eq_pow : (8 : UInt64) = UInt64.ofInt (2 ^ 3) := by decide
theorem four_eq_pow : (4 : UInt64) = UInt64.ofInt (2 ^ 2) := by decide

/-- The average stays put for new values from the old one up to `2^k - 1` above it. -/
theorem avgRma_eq_old_iff {k : Nat} (hk : k ≤ 32) (oldValue newValue : Int32) :
    avgRma (UInt64.ofInt (2 ^ k)) oldValue newValue = oldValue ↔
      oldValue.toInt ≤ newValue.toInt ∧ newValue.toInt < oldValue.toInt + 2 ^ k := by
  have positive : (0 : Int) < 2 ^ k := by positivity
  rw [← Int32.toInt_inj, avgRma_toInt hk, flooredMean_eq_old_iff positive]

end DriftTracing.Source
