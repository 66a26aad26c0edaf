import Mathlib.Algebra.BigOperators.Intervals
import Mathlib.Algebra.Order.BigOperators.Group.Finset
import Mathlib.Tactic.Linarith

/-!
# Sums over consecutive disjoint blocks

A stream `v` is cut into blocks of `size` elements. After `n` elements the block
still open holds the last `n % size` of them; when `size` divides `n` the block
just closed holds the last `size`. The quotient of a block sum, truncated toward
zero, lies between any integer bounds of the elements.
-/
namespace DriftTracing.Lib.Blocks

variable {M : Type*} [AddCommMonoid M]

/-- The sum of the elements of the block still open after `n` elements. -/
def openSum (size : Nat) (v : Nat → M) (n : Nat) : M :=
  ∑ i ∈ Finset.Ico (n - n % size) n, v i

/-- The sum of the last `size` of `n` elements. -/
def lastSum (size : Nat) (v : Nat → M) (n : Nat) : M :=
  ∑ i ∈ Finset.Ico (n - size) n, v i

/-- One element more: the open block grows, or it is full and closes. -/
theorem succ_mod_eq (size n : Nat) (positive : 0 < size) :
    (n + 1) % size = if n % size + 1 = size then 0 else n % size + 1 := by
  rw [← Nat.mod_add_mod]
  split
  · next full => rw [full, Nat.mod_self]
  · next part =>
    have := Nat.mod_lt n positive
    exact Nat.mod_eq_of_lt (by omega)

theorem dvd_succ_iff (size n : Nat) (positive : 0 < size) :
    size ∣ n + 1 ↔ n % size + 1 = size := by
  rw [Nat.dvd_iff_mod_eq_zero, succ_mod_eq size n positive]
  split <;> simp [*]

theorem openSum_of_dvd {size n : Nat} (v : Nat → M) (closed : size ∣ n) :
    openSum size v n = 0 := by
  simp [openSum, Nat.mod_eq_zero_of_dvd closed]

theorem openSum_succ {size n : Nat} (v : Nat → M) (part : ¬ size ∣ n + 1) (positive : 0 < size) :
    openSum size v (n + 1) = openSum size v n + v n := by
  have part' : ¬ n % size + 1 = size := mt (dvd_succ_iff size n positive).mpr part
  have hmod := Nat.mod_le n size
  unfold openSum
  rw [succ_mod_eq size n positive, if_neg part', Nat.add_sub_add_right,
    Finset.sum_Ico_succ_top (Nat.sub_le n _)]

theorem lastSum_succ {size n : Nat} (v : Nat → M) (closed : size ∣ n + 1) (positive : 0 < size) :
    lastSum size v (n + 1) = openSum size v n + v n := by
  have full := (dvd_succ_iff size n positive).mp closed
  unfold lastSum openSum
  rw [show n + 1 - size = n - n % size by omega, Finset.sum_Ico_succ_top (Nat.sub_le n _)]

variable {v : Nat → Int} {low high : Int} {size n : Nat}

theorem sum_Ico_bounds (m : Nat) (bounds : ∀ i < n, low ≤ v i ∧ v i ≤ high) :
    ((n - m : Nat) : Int) * low ≤ ∑ i ∈ Finset.Ico m n, v i ∧
      ∑ i ∈ Finset.Ico m n, v i ≤ ((n - m : Nat) : Int) * high := by
  have hlow := Finset.card_nsmul_le_sum (Finset.Ico m n) v low
    (fun i hi => (bounds i (Finset.mem_Ico.mp hi).2).1)
  have hhigh := Finset.sum_le_card_nsmul (Finset.Ico m n) v high
    (fun i hi => (bounds i (Finset.mem_Ico.mp hi).2).2)
  rw [Nat.card_Ico, nsmul_eq_mul] at hlow hhigh
  exact ⟨hlow, hhigh⟩

/-- A sum over at most `size` elements, each at most `B` in magnitude. -/
theorem natAbs_sum_Ico_le {B : Nat} (m : Nat) (bounds : ∀ i < n, (v i).natAbs ≤ B)
    (short : n - m ≤ size) : (∑ i ∈ Finset.Ico m n, v i).natAbs ≤ size * B := by
  have between : ∀ i < n, -(B : Int) ≤ v i ∧ v i ≤ B := by
    intro i hi
    have := bounds i hi
    omega
  have both := sum_Ico_bounds m between
  have scaled : (n - m) * B ≤ size * B := Nat.mul_le_mul_right B short
  have cast : ((n - m : Nat) : Int) * B = (((n - m) * B : Nat) : Int) :=
    (Nat.cast_mul _ _).symm
  rw [Int.mul_neg, cast] at both
  omega

/-- The truncated quotient stays between integer bounds of the mean. -/
theorem tdiv_bounds {sum count : Int} (positive : 0 < count) (hlow : low * count ≤ sum)
    (hhigh : sum ≤ high * count) : low ≤ sum.tdiv count ∧ sum.tdiv count ≤ high := by
  have cancel (b : Int) : (b * count).tdiv count = b := Int.mul_tdiv_cancel b (by omega)
  constructor
  · rw [← cancel low]
    exact Int.tdiv_le_tdiv positive hlow
  · rw [← cancel high]
    exact Int.tdiv_le_tdiv positive hhigh

end DriftTracing.Lib.Blocks
