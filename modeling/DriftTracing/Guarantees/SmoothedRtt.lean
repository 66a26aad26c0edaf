import DriftTracing.Guarantees.RttEstimate
import DriftTracing.Lib.MovingAverage

/-!
# The smoothed RTT as a moving average

README.md:120-121 documents the smoothed RTT as an exponentially weighted moving average
of the RTT samples. The application keeps it in integers and rounds down with every
sample. While no sample lets the estimate return to 0, the losses do not add up: after
any number of samples the RTT is at most 7 microseconds below the exact average, and its
variance as near to that of the distances.
-/
namespace DriftTracing.Source.Globals
open DriftTracing.Lib

def rttSample (cfg : Config) (g : Globals) (rounds : Nat → Round) (k : Nat) : ℚ :=
  (row cfg g rounds k).rttStd.toInt

/-- The moving average of the samples up to round `k`. -/
def averageRtt (cfg : Config) (g : Globals) (rounds : Nat → Round) (k : Nat) : ℚ :=
  movingAverage 8 (rttSample cfg g rounds 0) (fun j => rttSample cfg g rounds (j + 1)) k

/-- The moving average of the distances from each sample to the average before it. -/
def averageDistance (cfg : Config) (g : Globals) (rounds : Nat → Round) (k : Nat) : ℚ :=
  movingAverage 4 (rttSample cfg g rounds 0 / 2)
    (fun j => |rttSample cfg g rounds (j + 1) - averageRtt cfg g rounds j|) k

variable {cfg : Config} {g : Globals} {rounds : Nat → Round} {k : Nat}

/-- The samples up to round `k` are at least one microsecond. -/
def Positive (cfg : Config) (g : Globals) (rounds : Nat → Round) (k : Nat) : Prop :=
  ∀ j ≤ k, 0 < (row cfg g rounds j).rttStd.toInt

theorem Positive.mono {m : Nat} (h : Positive cfg g rounds k) (le : m ≤ k) :
    Positive cfg g rounds m :=
  fun j hj => h j (by omega)

theorem Positive.samplesWithin (h : Positive cfg g rounds k) :
    SamplesWithin cfg g rounds 1 (2 ^ 31 - 1) (k + 1) := by
  intro j hj
  have := (row cfg g rounds j).rttStd.toInt_lt
  have := h j (by omega)
  omega

/-- A state whose estimate is there, with a variance that is not negative. -/
def Estimated (g : Globals) : Prop := 0 < g.path.rtt.toInt ∧ 0 ≤ g.path.rttVar.toInt

theorem estimated_iff (g : Globals) :
    g.Estimated ↔ RttEstimate.Within 1 (2 ^ 31 - 1) g.path.estimate := by
  have := g.path.rtt.toInt_lt
  have := g.path.rttVar.toInt_lt
  constructor
  · rintro ⟨rtt, rttVar⟩
    refine ⟨?_, fun _ => ?_⟩
    · dsimp only [PathMetrics.estimate]
      omega
    · dsimp only [PathMetrics.estimate]
      omega
  · intro within
    exact ⟨within.rtt.1, (within.rttVar (by decide)).1⟩

/-- Positive samples give an estimate, and keep it. -/
theorem Positive.estimated (h : Positive cfg g rounds k) (none : g.path.rtt = 0) :
    (beforeRound cfg g rounds (k + 1)).Estimated := by
  rw [estimated_iff]
  rw [PathMetrics.rtt_eq_zero_iff] at none
  exact (estimate_run (by decide) (Or.inl none) h.samplesWithin).2

/-- A round that finds an estimate takes its sample into both averages. -/
theorem Positive.averages (h : Positive cfg g rounds k) (none : g.path.rtt = 0)
    (known : (beforeRound cfg g rounds k).Estimated) :
    let before := (beforeRound cfg g rounds k).path
    let sample := (row cfg g rounds k).rttStd.toInt
    (beforeRound cfg g rounds (k + 1)).path.rtt.toInt = flooredMean 8 before.rtt.toInt sample ∧
      (beforeRound cfg g rounds (k + 1)).path.rttVar.toInt =
        flooredMean 4 before.rttVar.toInt |sample - before.rtt.toInt| := by
  intro before sample
  rw [PathMetrics.rtt_eq_zero_iff] at none
  have step := estimate_succ (estimate_run (by decide) (Or.inl none) h.samplesWithin).1
  have nonzero : before.estimate.rtt ≠ 0 := known.1.ne'
  rw [RttEstimate.add, if_neg nonzero] at step
  exact ⟨congrArg RttEstimate.rtt step, congrArg RttEstimate.rttVar step⟩

/-- The first sample of a run is the estimate, with half of it as the variance. -/
theorem Positive.first (h : Positive cfg g rounds 0) (none : g.path.rtt = 0) :
    (beforeRound cfg g rounds 1).path.rtt.toInt = (row cfg g rounds 0).rttStd.toInt ∧
      (beforeRound cfg g rounds 1).path.rttVar.toInt =
        (row cfg g rounds 0).rttStd.toInt / 2 := by
  have zero := g.path.rtt_eq_zero_iff.mp none
  have step := estimate_succ (estimate_run (by decide) (Or.inl zero) h.samplesWithin).1
  have start : (beforeRound cfg g rounds 0).path.estimate.rtt = 0 := zero
  rw [RttEstimate.add, if_pos start] at step
  have half := Int.tdiv_eq_ediv_of_nonneg (h 0 (Nat.le_refl 0)).le (b := 2)
  rw [← half]
  exact ⟨congrArg RttEstimate.rtt step, congrArg RttEstimate.rttVar step⟩

/-- What is rounded down with every average over eight falls behind by less than 8. -/
theorem eighths_trail {kept sample : Nat → Int} {y : ℚ} {k : Nat} (start : y = kept 0)
    (floored : ∀ j < k, kept (j + 1) = flooredMean 8 (kept j) (sample j)) :
    0 ≤ movingAverage 8 y (fun j => (sample j : ℚ)) k - kept k ∧
      movingAverage 8 y (fun j => (sample j : ℚ)) k - kept k ≤ 7 := by
  have trails := @movingAverage_trails ℚ _ _ _ 8 kept sample (by decide) y k
    (by simp [start]) floored
  have weight : ((8 : Int) : ℚ) = 8 := by norm_num
  have seven : (8 : ℚ) - 1 = 7 := by norm_num
  rwa [weight, seven] at trails

/-- After round `k` the smoothed RTT is behind the average by what rounding down has
lost, which is less than 8. -/
theorem Positive.rtt_trails (h : Positive cfg g rounds k) (none : g.path.rtt = 0) :
    0 ≤ averageRtt cfg g rounds k - (beforeRound cfg g rounds (k + 1)).path.rtt.toInt ∧
      averageRtt cfg g rounds k - (beforeRound cfg g rounds (k + 1)).path.rtt.toInt ≤ 7 := by
  have first := ((h.mono (Nat.zero_le k)).first none).1
  have floored (j : Nat) (hj : j < k) :=
    ((h.mono (by omega : j + 1 ≤ k)).averages none
      ((h.mono (by omega : j ≤ k)).estimated none)).1
  exact @eighths_trail (fun j => (beforeRound cfg g rounds (j + 1)).path.rtt.toInt) _ _ k
    (congrArg Int.cast first.symm) floored

/-- The distance from a sample to the smoothed RTT is near that to the average. -/
theorem Positive.distance_near (h : Positive cfg g rounds k) (none : g.path.rtt = 0) {j : Nat}
    (hj : j < k) :
    |(|rttSample cfg g rounds (j + 1) - averageRtt cfg g rounds j|) -
      ((|(row cfg g rounds (j + 1)).rttStd.toInt -
        (beforeRound cfg g rounds (j + 1)).path.rtt.toInt| : Int) : ℚ)| ≤ 7 := by
  obtain ⟨ahead, near⟩ := (h.mono (by omega : j ≤ k)).rtt_trails none
  push_cast
  apply (abs_abs_sub_abs_le_abs_sub _ _).trans
  rw [rttSample, abs_le]
  constructor
  · linarith
  · linarith

/-- Behind by rounding, and apart by as much as the distances are. -/
theorem Positive.rttVar_near (h : Positive cfg g rounds k) (none : g.path.rtt = 0) :
    -7 ≤ averageDistance cfg g rounds k -
        (beforeRound cfg g rounds (k + 1)).path.rttVar.toInt ∧
      averageDistance cfg g rounds k -
        (beforeRound cfg g rounds (k + 1)).path.rttVar.toInt ≤ 10 := by
  have first := ((h.mono (Nat.zero_le k)).first none).2
  have floored (j : Nat) (hj : j < k) :=
    ((h.mono (by omega : j + 1 ≤ k)).averages none
      ((h.mono (by omega : j ≤ k)).estimated none)).2
  have half := @ediv_bounds ℚ _ _ _ 2 (by decide) (row cfg g rounds 0).rttStd.toInt
  have start : 0 ≤ rttSample cfg g rounds 0 / 2 -
        (beforeRound cfg g rounds 1).path.rttVar.toInt ∧
      rttSample cfg g rounds 0 / 2 - (beforeRound cfg g rounds 1).path.rttVar.toInt ≤
        ((4 : Int) : ℚ) - 1 := by
    norm_num at half
    rw [first, rttSample]
    norm_num
    constructor
    · linarith
    · linarith
  have trails := @movingAverage_trails ℚ _ _ _ 4
    (fun j => (beforeRound cfg g rounds (j + 1)).path.rttVar.toInt)
    (fun j => |(row cfg g rounds (j + 1)).rttStd.toInt -
      (beforeRound cfg g rounds (j + 1)).path.rtt.toInt|) (by decide)
    (rttSample cfg g rounds 0 / 2) k start floored
  have weight : ((4 : Int) : ℚ) = 4 := by norm_num
  have three : (4 : ℚ) - 1 = 3 := by norm_num
  rw [weight, three] at trails
  have near := @movingAverage_near ℚ _ _ _ 4 (rttSample cfg g rounds 0 / 2)
    (rttSample cfg g rounds 0 / 2) 7 _ _ (by norm_num) k (by simp)
    fun j hj => h.distance_near none hj
  have apart := abs_le.mp near
  unfold averageDistance
  constructor
  · linarith
  · linarith

/-- The documented average, in which a sample `i` rounds back has an eighth of the weight
`(7/8)^i`, and what the application keeps of it and of its variance. -/
theorem smoothed_rtt_is_moving_average (cfg : Config) (g : Globals) (rounds : Nat → Round)
    (k : Nat) (none : g.path.rtt = 0)
    (positive : ∀ j ≤ k, 0 < (row cfg g rounds j).rttStd.toInt) :
    let after := (beforeRound cfg g rounds (k + 1)).path
    averageRtt cfg g rounds k = (7 / 8) ^ k * rttSample cfg g rounds 0 +
        ∑ j ∈ Finset.range k, 1 / 8 * (7 / 8) ^ (k - 1 - j) * rttSample cfg g rounds (j + 1) ∧
      (0 ≤ averageRtt cfg g rounds k - after.rtt.toInt ∧
        averageRtt cfg g rounds k - after.rtt.toInt ≤ 7) ∧
      -7 ≤ averageDistance cfg g rounds k - after.rttVar.toInt ∧
        averageDistance cfg g rounds k - after.rttVar.toInt ≤ 10 := by
  intro after
  refine ⟨?_, Positive.rtt_trails positive none, Positive.rttVar_near positive none⟩
  have weights := @movingAverage_eq_sum ℚ _ 8 (by norm_num) (rttSample cfg g rounds 0)
    (fun j => rttSample cfg g rounds (j + 1)) k
  have kept : (1 : ℚ) - 1 / 8 = 7 / 8 := by norm_num
  rw [kept] at weights
  exact weights

/-- Samples around one millisecond. -/
def aroundThousand (k : Nat) : Int := 1000 + 37 * (k % 5)

theorem aroundThousand_fits (k : Nat) : InInt (aroundThousand k) := by
  unfold InInt aroundThousand
  omega

theorem aroundThousand_rttStd (fresh : g.path.ackRecords = AckWindow.fresh 1024) (j : Nat) :
    (row cfg g (measured aroundThousand) j).rttStd.toInt = aroundThousand j :=
  measured_rttStd fresh (aroundThousand_fits j)

theorem aroundThousand_positive (fresh : g.path.ackRecords = AckWindow.fresh 1024) (k : Nat) :
    Positive cfg g (measured aroundThousand) k := by
  intro j _
  rw [aroundThousand_rttStd fresh, aroundThousand]
  omega

theorem smoothed_rtt_around_thousand :
    let after := (beforeRound {} {} (measured aroundThousand) 10).path
    averageRtt {} {} (measured aroundThousand) 9 =
        (7 / 8) ^ 9 * rttSample {} {} (measured aroundThousand) 0 +
          ∑ j ∈ Finset.range 9, 1 / 8 * (7 / 8) ^ (9 - 1 - j) *
            rttSample {} {} (measured aroundThousand) (j + 1) ∧
      (0 ≤ averageRtt {} {} (measured aroundThousand) 9 - after.rtt.toInt ∧
        averageRtt {} {} (measured aroundThousand) 9 - after.rtt.toInt ≤ 7) ∧
      -7 ≤ averageDistance {} {} (measured aroundThousand) 9 - after.rttVar.toInt ∧
        averageDistance {} {} (measured aroundThousand) 9 - after.rttVar.toInt ≤ 10 :=
  smoothed_rtt_is_moving_average {} {} (measured aroundThousand) 9 rfl
    (@aroundThousand_positive {} {} rfl 9)

/-- A round that finds an estimate takes its sample into the RTT, whatever the variance. -/
theorem rtt_succ (known : 0 < (beforeRound cfg g rounds k).path.rtt.toInt) :
    (beforeRound cfg g rounds (k + 1)).path.rtt.toInt =
      flooredMean 8 (beforeRound cfg g rounds k).path.rtt.toInt
        (row cfg g rounds k).rttStd.toInt := by
  have nonzero : (beforeRound cfg g rounds k).path.rtt ≠ 0 := by
    intro zero
    rw [zero] at known
    exact absurd known (by decide)
  rw [(@path_succ cfg g rounds k).1, PathMetrics.addRtt, if_neg nonzero]
  dsimp only
  rw [eight_eq_pow, avgRma_toInt (by decide)]
  rfl

/-- From an estimate, the RTT is behind the average that starts with it. -/
theorem rtt_trails_start (start : 0 < g.path.rtt.toInt)
    (positive : ∀ j, 0 < (row cfg g rounds j).rttStd.toInt) (k : Nat) :
    0 ≤ movingAverage 8 (g.path.rtt.toInt : ℚ) (rttSample cfg g rounds) k -
        (beforeRound cfg g rounds k).path.rtt.toInt ∧
      movingAverage 8 (g.path.rtt.toInt : ℚ) (rttSample cfg g rounds) k -
        (beforeRound cfg g rounds k).path.rtt.toInt ≤ 7 := by
  have known (j : Nat) : 0 < (beforeRound cfg g rounds j).path.rtt.toInt := by
    induction j with
    | zero => exact start
    | succ j ih =>
      have between := @flooredMean_between 8 (beforeRound cfg g rounds j).path.rtt.toInt
        (row cfg g rounds j).rttStd.toInt (by decide)
      have sample := positive j
      rw [rtt_succ ih]
      omega
  exact @eighths_trail (fun j => (beforeRound cfg g rounds j).path.rtt.toInt) _ _ k rfl
    fun j _ => rtt_succ (known j)

/-- Two estimates that are given the same samples lose an eighth of their difference with
each of them, up to what rounding keeps. -/
theorem estimates_forget_start (cfg cfg' : Config) (g g' : Globals) (rounds rounds' : Nat → Round)
    (start : 0 < g.path.rtt.toInt) (start' : 0 < g'.path.rtt.toInt)
    (same : ∀ j, (row cfg g rounds j).rttStd = (row cfg' g' rounds' j).rttStd)
    (positive : ∀ j, 0 < (row cfg g rounds j).rttStd.toInt) (k : Nat) :
    |((beforeRound cfg g rounds k).path.rtt.toInt : ℚ) -
        (beforeRound cfg' g' rounds' k).path.rtt.toInt| ≤
      (7 / 8) ^ k * |(g.path.rtt.toInt : ℚ) - g'.path.rtt.toInt| + 7 := by
  have samples : rttSample cfg g rounds = rttSample cfg' g' rounds' := by
    funext j
    rw [rttSample, rttSample, same j]
  have near := rtt_trails_start start positive k
  have near' := @rtt_trails_start cfg' g' rounds' start' (fun j => same j ▸ positive j) k
  rw [← samples] at near'
  have forgets := movingAverage_forgets (K := ℚ) (n := 8) (by norm_num) g.path.rtt.toInt
    g'.path.rtt.toInt (rttSample cfg g rounds) k
  have kept : (1 : ℚ) - 1 / 8 = 7 / 8 := by norm_num
  have decay : (0 : ℚ) ≤ (7 / 8) ^ k := by positivity
  rw [kept] at forgets
  have apart := congrArg abs forgets
  rw [abs_mul, abs_of_nonneg decay] at apart
  have reach := abs_le.mp apart.le
  rw [abs_le]
  constructor
  · linarith [near.1, near'.2]
  · linarith [near.2, near'.1]

/-- Estimates of 100 microseconds, with a variance below zero, and of 5 milliseconds. -/
theorem estimates_forget_start_apart :
    let low : Globals := { path := { rtt := 100, rttVar := -7 } }
    let high : Globals := { path := { rtt := 5000, rttVar := 0 } }
    |((beforeRound {} low (measured aroundThousand) 20).path.rtt.toInt : ℚ) -
        (beforeRound {} high (measured aroundThousand) 20).path.rtt.toInt| ≤
      (7 / 8) ^ 20 * |(low.path.rtt.toInt : ℚ) - high.path.rtt.toInt| + 7 := by
  intro low high
  apply estimates_forget_start {} {} low high (measured aroundThousand) (measured aroundThousand)
    (by decide) (by decide)
  · intro j
    rw [← Int32.toInt_inj, aroundThousand_rttStd (g := low) rfl,
      aroundThousand_rttStd (g := high) rfl]
  · intro j
    exact @aroundThousand_positive {} low rfl j j (Nat.le_refl j)

end DriftTracing.Source.Globals
