import Mathlib.Algebra.Ring.Int.Defs
import Mathlib.Tactic.Common

/-!
# Clock readings and durations

app/utils.hpp:19-52 and the `std::chrono` conversions the application makes. A
time point is the number of nanoseconds since the epoch of its clock, as an
unbounded integer; both clocks tick in nanoseconds. Signed 64-bit arithmetic is
exact here: an overflow would be undefined behaviour, not a wrapped value.
-/
namespace DriftTracing.Source

/-- The default-constructed `time_point()`. -/
def epoch : Int := 0

def microsecondsFrom (us : Int) : Int := us * 1000

/-- `duration_cast<microseconds>(t).count()`: the cast truncates toward zero. -/
def countMicroseconds (t : Int) : Int := t.tdiv 1000

/-- The conversion `(int)` of a 64-bit count keeps the low 32 bits. -/
def toInt (count : Int) : Int32 := Int32.ofInt count

/-- In the range of `int`. -/
def InInt (x : Int) : Prop := -2 ^ 31 ≤ x ∧ x < 2 ^ 31

instance (x : Int) : Decidable (InInt x) :=
  inferInstanceAs (Decidable (_ ∧ _))

@[simp] theorem microsecondsFrom_zero : microsecondsFrom 0 = 0 := rfl

theorem microsecondsFrom_add (a b : Int) :
    microsecondsFrom (a + b) = microsecondsFrom a + microsecondsFrom b := by
  simp only [microsecondsFrom]
  omega

theorem microsecondsFrom_injective {a b : Int} (h : microsecondsFrom a = microsecondsFrom b) :
    a = b := by
  simp only [microsecondsFrom] at h
  omega

@[simp] theorem countMicroseconds_microsecondsFrom (us : Int) :
    countMicroseconds (microsecondsFrom us) = us :=
  Int.mul_tdiv_cancel us (by decide)

/-- The count loses less than a microsecond. -/
theorem countMicroseconds_near (t : Int) :
    t - 1000 < microsecondsFrom (countMicroseconds t) ∧
      microsecondsFrom (countMicroseconds t) < t + 1000 := by
  have positive : (0 : Int) < 1000 := by decide
  have split := Int.tmod_add_tdiv_mul t 1000
  have low := Int.lt_tmod_of_pos t positive
  have high := Int.tmod_lt_of_pos t positive
  unfold microsecondsFrom countMicroseconds
  omega

/-- Two microseconds more are counted as more. -/
theorem countMicroseconds_lt {t u : Int} (h : t + 2000 ≤ u) :
    countMicroseconds t < countMicroseconds u := by
  have ht := (countMicroseconds_near t).2
  have hu := (countMicroseconds_near u).1
  unfold microsecondsFrom at ht hu
  omega

/-- The count is non-negative from just above minus one microsecond on. -/
theorem countMicroseconds_nonneg {t : Int} (h : -1000 < t) : 0 ≤ countMicroseconds t := by
  unfold countMicroseconds
  rcases Int.le_total 0 t with nonneg | neg
  · exact Int.tdiv_nonneg nonneg (by decide)
  · have : (-t).tdiv 1000 = 0 := Int.tdiv_eq_zero_of_lt (by omega) (by omega)
    rw [Int.neg_tdiv] at this
    omega

theorem countMicroseconds_neg {t : Int} (h : t ≤ -1000) : countMicroseconds t < 0 := by
  have : 0 < (-t).tdiv 1000 := by
    rw [Int.tdiv_eq_ediv_of_nonneg (by omega)]
    omega
  rw [Int.neg_tdiv] at this
  unfold countMicroseconds
  omega

theorem toInt_toInt {count : Int} (low : -2 ^ 31 ≤ count) (high : count < 2 ^ 31) :
    (toInt count).toInt = count :=
  Int32.toInt_ofInt_of_le low high

end DriftTracing.Source
