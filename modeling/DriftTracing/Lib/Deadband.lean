import Mathlib.Algebra.Order.Floor.Ring
import Mathlib.Algebra.Order.Field.Rat
import Mathlib.Data.Rat.Floor
import Mathlib.Tactic.FieldSimp
import Mathlib.Tactic.Linarith

/-!
# Fixed-step correction with a dead band

`correction width x` is the step taken against a deviation `x`: nothing inside the
band `[-width, width]`, one `width` in the direction of `x` outside it. The
residual `x - correction width x` never changes sign and never grows, and feeding
residuals back settles inside the band after finitely many equal steps.
-/
namespace DriftTracing.Lib.Deadband

def correction (width x : Int) : Int :=
  if width < x.natAbs then (if x < 0 then -width else width) else 0

variable {width x : Int}

theorem correction_inside (h : (x.natAbs : Int) ≤ width) : correction width x = 0 :=
  if_neg (by omega)

theorem correction_outside (h : width < x.natAbs) (hw : 0 ≤ width) :
    correction width x = x.sign * width := by
  rw [correction, if_pos h]
  split
  · next neg => rw [Int.sign_eq_neg_one_of_neg neg, Int.neg_mul, Int.one_mul]
  · next nonneg => rw [Int.sign_eq_one_of_pos (by omega), Int.one_mul]

theorem correction_eq_zero_iff (hw : 0 < width) :
    correction width x = 0 ↔ (x.natAbs : Int) ≤ width := by
  constructor
  · intro still
    by_contra outside
    rw [correction_outside (by omega) hw.le] at still
    rcases Int.mul_eq_zero.mp still with sign | zero
    · rw [Int.sign_eq_zero_iff_zero] at sign
      omega
    · omega
  · exact correction_inside

/-- The step lies between nothing and the whole deviation. -/
theorem correction_between (hw : 0 ≤ width) :
    (0 ≤ x → 0 ≤ correction width x ∧ correction width x ≤ x) ∧
      (x ≤ 0 → x ≤ correction width x ∧ correction width x ≤ 0) := by
  unfold correction
  constructor <;> intro sign <;> split <;> try split
  all_goals omega

/-- The residual has the sign of the deviation, or is zero. -/
theorem residual_sign (hw : 0 ≤ width) : 0 ≤ x * (x - correction width x) := by
  obtain ⟨pos, neg⟩ := correction_between (x := x) hw
  rcases Int.le_total 0 x with h | h
  · exact mul_nonneg h (by have := pos h; omega)
  · exact mul_nonneg_of_nonpos_of_nonpos h (by have := neg h; omega)

/-- The residual is no larger than the deviation. -/
theorem residual_natAbs_le (hw : 0 ≤ width) :
    (x - correction width x).natAbs ≤ x.natAbs := by
  obtain ⟨pos, neg⟩ := correction_between (x := x) hw
  rcases Int.le_total 0 x with h | h
  · have := pos h
    omega
  · have := neg h
    omega

/-- `q` is the rational `r` truncated toward zero. -/
structure Truncates (r : ℚ) (q : Int) : Prop where
  nonneg : 0 ≤ r → 0 ≤ q ∧ q ≤ r ∧ r < q + 1
  nonpos : r ≤ 0 → q ≤ 0 ∧ r ≤ q ∧ q - 1 < r

theorem tdiv_truncates (sum : Int) {count : Nat} (positive : 0 < count) :
    Truncates ((sum : ℚ) / count) (sum.tdiv count) := by
  have positive' : (0 : ℚ) < count := by exact_mod_cast positive
  have positive'' : (0 : Int) < count := by omega
  have split := Int.tmod_add_tdiv_mul sum count
  constructor
  · intro h
    rw [le_div_iff₀ positive', zero_mul] at h
    have sign : 0 ≤ sum := by exact_mod_cast h
    have quotient := Int.tdiv_nonneg sign positive''.le
    have low := Int.tmod_nonneg (count : Int) sign
    have high := Int.tmod_lt_of_pos sum positive''
    have below : sum.tdiv count * count ≤ sum := by omega
    have above : sum < sum.tdiv count * count + count := by omega
    refine ⟨quotient, ?_, ?_⟩
    · rw [le_div_iff₀ positive']
      exact_mod_cast below
    · rw [div_lt_iff₀ positive', add_mul, one_mul]
      exact_mod_cast above
  · intro h
    rw [div_le_iff₀ positive', zero_mul] at h
    have sign : sum ≤ 0 := by exact_mod_cast h
    have mirrored : 0 ≤ -sum := by omega
    have quotient := Int.tdiv_nonneg mirrored positive''.le
    have low := Int.lt_tmod_of_pos sum positive''
    have high := Int.tmod_nonneg (count : Int) mirrored
    rw [Int.neg_tdiv] at quotient
    rw [Int.neg_tmod] at high
    have above : sum ≤ sum.tdiv count * count := by omega
    have below : sum.tdiv count * count - count < sum := by omega
    refine ⟨by omega, ?_, ?_⟩
    · rw [div_le_iff₀ positive']
      exact_mod_cast above
    · rw [lt_div_iff₀ positive', sub_mul, one_mul]
      exact_mod_cast below

/-- Correcting by the truncation of a deviation of less than two steps and one
leaves at most one step of the truncation, and less than one step and one of the
deviation itself. -/
theorem correction_tracks {r : ℚ} {q : Int} (truncated : Truncates r q)
    (near : |r| < 2 * width + 1) :
    ((q - correction width q).natAbs : Int) ≤ width ∧ |r - correction width q| < width + 1 := by
  obtain ⟨above, below⟩ := abs_lt.mp near
  unfold correction
  rcases le_total 0 r with sign | sign
  · obtain ⟨positive, low, high⟩ := truncated.nonneg sign
    have bound : q < 2 * width + 1 := by exact_mod_cast low.trans_lt below
    by_cases outside : width < q.natAbs
    · rw [if_pos outside, if_neg (by omega)]
      have far : width + 1 ≤ q := by omega
      have far' : (width : ℚ) + 1 ≤ q := by exact_mod_cast far
      refine ⟨by omega, abs_lt.mpr ⟨by linarith, by linarith⟩⟩
    · rw [if_neg outside]
      have inside : q ≤ width := by omega
      have inside' : (q : ℚ) ≤ width := by exact_mod_cast inside
      refine ⟨by omega, abs_lt.mpr ⟨?_, ?_⟩⟩
      · rw [Int.cast_zero]
        linarith
      · rw [Int.cast_zero]
        linarith
  · obtain ⟨negative, high, low⟩ := truncated.nonpos sign
    have bound : -(2 * width + 1) < q := by exact_mod_cast above.trans_le high
    by_cases outside : width < q.natAbs
    · rw [if_pos outside, if_pos (by omega)]
      have far : q ≤ -width - 1 := by omega
      have far' : (q : ℚ) ≤ -(width : ℚ) - 1 := by exact_mod_cast far
      rw [Int.cast_neg]
      refine ⟨by omega, abs_lt.mpr ⟨by linarith, by linarith⟩⟩
    · rw [if_neg outside]
      have inside : -width ≤ q := by omega
      have inside' : -(width : ℚ) ≤ q := by exact_mod_cast inside
      refine ⟨by omega, abs_lt.mpr ⟨?_, ?_⟩⟩
      · rw [Int.cast_zero]
        linarith
      · rw [Int.cast_zero]
        linarith

def residual (width x : Int) : Int := x - correction width x

/-- How many steps lead into the band: `max(0, ceil((|x| - width) / width))`. -/
def steps (width x : Int) : Nat := ⌈((x.natAbs - width : Int) : ℚ) / width⌉₊

theorem lt_steps_iff (hw : 0 < width) (b : Nat) :
    b < steps width x ↔ b * width + width < x.natAbs := by
  have hw' : (0 : ℚ) < width := by exact_mod_cast hw
  rw [steps, Nat.lt_ceil, lt_div_iff₀ hw']
  have cast : (b : ℚ) * width < ((x.natAbs - width : Int) : ℚ) ↔
      (b : Int) * width < x.natAbs - width := by exact_mod_cast Iff.rfl
  rw [cast]
  constructor <;> intro h <;> linarith

/-- The distance travelled in all the steps ends inside the band. -/
theorem steps_reach (hw : 0 < width) (x : Int) :
    steps width x * width ≤ x.natAbs ∧ (x.natAbs : Int) ≤ steps width x * width + width := by
  have upper := mt (lt_steps_iff (x := x) hw (steps width x)).mpr (Nat.lt_irrefl _)
  refine ⟨?_, by omega⟩
  cases count : steps width x with
  | zero => simp
  | succ n =>
    have lower := (lt_steps_iff (x := x) hw n).mp (by omega)
    rw [Nat.cast_succ, add_mul, one_mul]
    omega

/-- The distance left after `b` rounds, `min b steps` of which moved. -/
theorem iterate_residual (hw : 0 < width) (x : Int) (b : Nat) :
    (residual width)^[b] x = x - x.sign * (min b (steps width x) * width) := by
  induction b with
  | zero => simp
  | succ b ih =>
    rw [Function.iterate_succ_apply', ih]
    by_cases moving : b < steps width x
    · have far := (lt_steps_iff hw b).mp moving
      have start : 0 ≤ (b : Int) * width := mul_nonneg (by omega) hw.le
      rw [Nat.min_eq_left (by omega), Nat.min_eq_left (by omega), Nat.cast_succ, add_mul, one_mul]
      generalize (b : Int) * width = travelled at far start
      rcases Int.lt_trichotomy x 0 with neg | rfl | pos
      · rw [Int.sign_eq_neg_one_of_neg neg]
        unfold residual correction
        split <;> try split
        all_goals omega
      · rw [Int.natAbs_zero] at far
        omega
      · rw [Int.sign_eq_one_of_pos pos]
        unfold residual correction
        split <;> try split
        all_goals omega
    · obtain ⟨low, high⟩ := steps_reach hw x
      rw [Nat.min_eq_right (by omega), Nat.min_eq_right (by omega)]
      generalize (steps width x : Int) * width = travelled at low high
      have inside : correction width (x - x.sign * travelled) = 0 := by
        apply correction_inside
        rcases Int.lt_trichotomy x 0 with neg | rfl | pos
        · rw [Int.sign_eq_neg_one_of_neg neg]
          omega
        · simp
          omega
        · rw [Int.sign_eq_one_of_pos pos]
          omega
      rw [residual, inside, Int.sub_zero]

end DriftTracing.Lib.Deadband
