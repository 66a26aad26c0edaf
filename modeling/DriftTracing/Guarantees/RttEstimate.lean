import DriftTracing.Guarantees.Rounds

/-!
# The smoothed RTT

The averages of `on_ctrl_ackack` over the integers: as long as the differences fit an
`int`, the wrapping computation of the source is this one. From there on the estimate
is a question about floored means, and about the value 0, which stands for "no estimate
yet" and can be reached again.
-/
namespace DriftTracing.Source
open DriftTracing.Lib

/-- The smoothed RTT and its variance, as integers. -/
structure RttEstimate where
  rtt : Int
  rttVar : Int

namespace RttEstimate

def add (e : RttEstimate) (sample : Int) : RttEstimate :=
  if e.rtt = 0 then ⟨sample, sample.tdiv 2⟩
  else ⟨flooredMean 8 e.rtt sample, flooredMean 4 e.rttVar |sample - e.rtt|⟩

/-- The estimate is in the range of the samples and, when these are not negative, so
is its variance, above zero. -/
structure Within (low high : Int) (e : RttEstimate) : Prop where
  rtt : low ≤ e.rtt ∧ e.rtt ≤ high
  rttVar : 0 ≤ low → 0 ≤ e.rttVar ∧ e.rttVar ≤ high

/-- One sample keeps the estimate in range. The value 0 needs no range: the sample
replaces it. -/
theorem Within.add {low high sample : Int} {e : RttEstimate}
    (h : e.rtt = 0 ∨ Within low high e) (range : low ≤ sample ∧ sample ≤ high) :
    Within low high (e.add sample) := by
  unfold RttEstimate.add
  by_cases first : e.rtt = 0
  · rw [if_pos first]
    refine ⟨range, fun nonneg => ?_⟩
    have half : sample.tdiv 2 = sample / 2 := Int.tdiv_eq_ediv_of_nonneg (by omega)
    dsimp only
    omega
  · rw [if_neg first]
    obtain ⟨rtt, rttVar⟩ := h.resolve_left first
    have mean := @flooredMean_between 8 e.rtt sample (by decide)
    have spread := @flooredMean_between 4 e.rttVar |sample - e.rtt| (by decide)
    refine ⟨by dsimp only; omega, fun nonneg => ?_⟩
    have := rttVar nonneg
    have := abs_nonneg (sample - e.rtt)
    have distance : |sample - e.rtt| ≤ high := by
      rw [abs_le]
      omega
    dsimp only
    omega

/-- The step of the estimate when it is there, and when it is not. -/
theorem add_rtt (e : RttEstimate) (sample : Int) :
    (e.add sample).rtt = if e.rtt = 0 then sample else flooredMean 8 e.rtt sample := by
  unfold RttEstimate.add
  split
  · rfl
  · rfl

/-- The estimate moves by at most the eighth part of the distance, rounded up. -/
def Smooth (e : RttEstimate) (sample : Int) : Prop :=
  |(e.add sample).rtt - e.rtt| ≤ ⌈((|sample - e.rtt| : Int) : ℚ) / 8⌉

/-- An estimate of 0 is replaced outright, which is smooth for the samples 0 and 1 only. -/
theorem smooth_iff {e : RttEstimate} {sample : Int} (nonneg : 0 ≤ sample) :
    e.Smooth sample ↔ e.rtt ≠ 0 ∨ sample ≤ 1 := by
  unfold Smooth
  rw [add_rtt]
  by_cases first : e.rtt = 0
  · rw [if_pos first, first, Int.sub_zero, abs_of_nonneg nonneg]
    have ceiling := Int.ceil_lt_add_one ((sample : ℚ) / 8)
    have reach := Int.le_ceil ((sample : ℚ) / 8)
    constructor
    · intro moved
      right
      have below : (sample : ℚ) < sample / 8 + 1 := by
        have : (sample : ℚ) ≤ (⌈(sample : ℚ) / 8⌉ : ℚ) := by exact_mod_cast moved
        linarith
      have small : (sample : ℚ) < 2 := by linarith
      have : sample < 2 := by exact_mod_cast small
      omega
    · intro start
      have small : sample ≤ 1 := start.resolve_left (by simp)
      rw [Int.le_ceil_iff]
      have : (sample : ℚ) ≤ 1 := by exact_mod_cast small
      have : (0 : ℚ) ≤ sample := by exact_mod_cast nonneg
      linarith
  · rw [if_neg first]
    exact ⟨fun _ => Or.inl first, fun _ => natAbs_flooredMean_sub_le (by decide)⟩

end RttEstimate

/-- The signed operations of the averages stay in range: the difference to the
estimate, and its absolute value. -/
structure PathMetrics.AddRttFits (p : PathMetrics) (rttStd : Int32) : Prop where
  difference : p.rtt ≠ 0 → InInt (rttStd.toInt - p.rtt.toInt)
  magnitude : p.rtt ≠ 0 → InInt |rttStd.toInt - p.rtt.toInt|

def PathMetrics.estimate (p : PathMetrics) : RttEstimate := ⟨p.rtt.toInt, p.rttVar.toInt⟩

theorem PathMetrics.rtt_eq_zero_iff (p : PathMetrics) : p.rtt = 0 ↔ p.estimate.rtt = 0 :=
  Int32.toInt_inj.symm

/-- Where nothing overflows, the source computes the integer averages. -/
theorem PathMetrics.estimate_addRtt {p : PathMetrics} {rttStd : Int32}
    (fits : p.AddRttFits rttStd) : (p.addRtt rttStd).estimate = p.estimate.add rttStd.toInt := by
  unfold PathMetrics.addRtt RttEstimate.add
  by_cases first : p.rtt = 0
  · rw [if_pos first, if_pos (p.rtt_eq_zero_iff.mp first), PathMetrics.estimate]
    have half : (rttStd / 2).toInt = rttStd.toInt.tdiv 2 :=
      Int32.toInt_div_of_ne_right rttStd 2 (by decide)
    rw [half]
  · rw [if_neg first, if_neg (mt p.rtt_eq_zero_iff.mpr first), PathMetrics.estimate]
    obtain ⟨low, high⟩ := fits.magnitude first
    dsimp only
    rw [eight_eq_pow, four_eq_pow, avgRma_toInt (by decide), avgRma_toInt (by decide),
      Int.natCast_natAbs, toInt_toInt low high]
    rfl

/-- Samples and estimate in a range narrower than 2^31 do not overflow. -/
theorem PathMetrics.addRttFits_of_within {p : PathMetrics} {rttStd : Int32} {low high : Int}
    (h : p.estimate.rtt = 0 ∨ RttEstimate.Within low high p.estimate) (width : high - low < 2 ^ 31)
    (range : low ≤ rttStd.toInt ∧ rttStd.toInt ≤ high) : p.AddRttFits rttStd := by
  have near : p.rtt ≠ 0 → |rttStd.toInt - p.rtt.toInt| < 2 ^ 31 := by
    intro estimated
    have within := (h.resolve_left (mt p.rtt_eq_zero_iff.mpr estimated)).rtt
    unfold PathMetrics.estimate at within
    rw [abs_lt]
    dsimp only at within
    omega
  refine ⟨fun estimated => ?_, fun estimated => ?_⟩
  · obtain ⟨below, above⟩ := abs_lt.mp (near estimated)
    exact ⟨below.le, above⟩
  · have := abs_nonneg (rttStd.toInt - p.rtt.toInt)
    exact ⟨by omega, near estimated⟩

namespace Globals

variable {cfg : Config} {g : Globals} {rounds : Nat → Round} {low high : Int} {k : Nat}

theorem estimate_succ
    (fits : (beforeRound cfg g rounds k).path.AddRttFits (row cfg g rounds k).rttStd) :
    (beforeRound cfg g rounds (k + 1)).path.estimate =
      (beforeRound cfg g rounds k).path.estimate.add (row cfg g rounds k).rttStd.toInt := by
  rw [← PathMetrics.estimate_addRtt fits]
  obtain ⟨rtt, rttVar⟩ := @path_succ cfg g rounds k
  unfold PathMetrics.estimate
  rw [rtt, rttVar]

/-- The samples of the first `n` rounds are in the range. -/
def SamplesWithin (cfg : Config) (g : Globals) (rounds : Nat → Round) (low high : Int)
    (n : Nat) : Prop :=
  ∀ j < n, low ≤ (row cfg g rounds j).rttStd.toInt ∧ (row cfg g rounds j).rttStd.toInt ≤ high

/-- From no estimate, or one in range, every round computes the integer averages, which
are in range. -/
theorem estimate_run (width : high - low < 2 ^ 31)
    (start : g.path.estimate.rtt = 0 ∨ RttEstimate.Within low high g.path.estimate)
    (range : SamplesWithin cfg g rounds low high (k + 1)) :
    (beforeRound cfg g rounds k).path.AddRttFits (row cfg g rounds k).rttStd ∧
      RttEstimate.Within low high (beforeRound cfg g rounds (k + 1)).path.estimate := by
  have step (k : Nat) (range : SamplesWithin cfg g rounds low high (k + 1))
      (before : (beforeRound cfg g rounds k).path.estimate.rtt = 0 ∨
        RttEstimate.Within low high (beforeRound cfg g rounds k).path.estimate) :
      (beforeRound cfg g rounds k).path.AddRttFits (row cfg g rounds k).rttStd ∧
        RttEstimate.Within low high (beforeRound cfg g rounds (k + 1)).path.estimate := by
    have sample := range k (Nat.lt_succ_self k)
    have fits := PathMetrics.addRttFits_of_within before width sample
    rw [estimate_succ fits]
    exact ⟨fits, RttEstimate.Within.add before sample⟩
  induction k with
  | zero => exact step 0 range start
  | succ k ih => exact step (k + 1) range (Or.inr (ih fun j hj => range j (by omega)).2)

/-- The first RTT that a base was set with is one of the run's, or 0 without compensation. -/
def FirstRttWithin (cfg : Config) (low high : Int) (t : Tsbpd) : Prop :=
  t.timeBase = epoch ∨
    if cfg.compensateRtt then low ≤ t.firstRttUs.toInt ∧ t.firstRttUs.toInt ≤ high
    else t.firstRttUs = 0

theorem onAckack_firstRttUs (t : Tsbpd) (set : t.timeBase ≠ epoch) (timestampUs : UInt32)
    (rttUs : Int32) (std : Int) :
    (t.onAckack timestampUs rttUs std).2.firstRttUs = t.firstRttUs :=
  (Tsbpd.onSample_set set ⟨timestampUs, rttUs, std⟩ ⟨t.wrapCheck, 0⟩ rfl).2.2.1

theorem firstRttWithin_run (start : g.tsbpd.timeBase = epoch)
    (range : SamplesWithin cfg g rounds low high k) :
    FirstRttWithin cfg low high (beforeRound cfg g rounds k).tsbpd := by
  induction k with
  | zero => exact Or.inl start
  | succ k ih =>
    have before := ih fun j hj => range j (by omega)
    have sample := range k (Nat.lt_succ_self k)
    right
    rw [tsbpd_succ.2]
    by_cases unset : (beforeRound cfg g rounds k).tsbpd.timeBase = epoch
    · rw [Tsbpd.onSample_unset unset]
      cases compensate : cfg.compensateRtt with
      | true =>
        rw [if_pos rfl, samples_rttUs_compensated compensate]
        exact sample
      | false =>
        rw [if_neg Bool.false_ne_true]
        exact samples_rttUs_uncompensated compensate
    · rw [Tsbpd.onSample, onAckack_firstRttUs _ unset]
      exact before.resolve_left unset

/-- The estimates of a run stay in the range of its RTTs, and no signed operation on
them overflows, the RTT difference of the drift sample included when the run starts
without a time base. -/
theorem estimates_stay_within (cfg : Config) (g : Globals) (rounds : Nat → Round)
    (low high : Int) (width : high - low < 2 ^ 31) (start : g.path.rtt = 0) (k : Nat)
    (range : SamplesWithin cfg g rounds low high (k + 1)) :
    let before := beforeRound cfg g rounds k
    let after := beforeRound cfg g rounds (k + 1)
    before.path.AddRttFits (row cfg g rounds k).rttStd ∧
      (low ≤ after.path.rtt.toInt ∧ after.path.rtt.toInt ≤ high) ∧
      (0 ≤ low → 0 ≤ after.path.rttVar.toInt ∧ after.path.rttVar.toInt ≤ high) ∧
      (g.tsbpd.timeBase = epoch → before.tsbpd.timeBase ≠ epoch →
        InInt ((samples cfg g rounds k).rttUs.toInt - before.tsbpd.firstRttUs.toInt)) := by
  intro before after
  have none : g.path.estimate.rtt = 0 := g.path.rtt_eq_zero_iff.mp start
  obtain ⟨fits, within⟩ := estimate_run width (Or.inl none) range
  refine ⟨fits, within.rtt, within.rttVar, fun unset set => ?_⟩
  have sample := range k (Nat.lt_succ_self k)
  have first := (firstRttWithin_run unset fun j hj => range j (by omega)).resolve_left set
  unfold InInt
  cases compensate : cfg.compensateRtt with
  | true =>
    rw [compensate, if_pos rfl] at first
    rw [samples_rttUs_compensated compensate]
    dsimp only [before]
    omega
  | false =>
    rw [compensate, if_neg Bool.false_ne_true] at first
    rw [samples_rttUs_uncompensated compensate, first]
    decide

/-- Rounds with given RTTs, 20 milliseconds apart. -/
def measured (sample : Nat → Int) : Nat → Round :=
  ownRounds (fun k => UInt32.ofNat (20000 * k)) (fun k => microsecondsFrom (20000 * k))
    (fun k => microsecondsFrom (20000 * k + sample k))

theorem measured_rttStd (fresh : g.path.ackRecords = AckWindow.fresh 1024) {sample : Nat → Int}
    (fits : InInt (sample k)) : (row cfg g (measured sample) k).rttStd.toInt = sample k := by
  have elapsed : microsecondsFrom (20000 * k + sample k) - microsecondsFrom (20000 * k) =
      microsecondsFrom (sample k) := by
    rw [microsecondsFrom_add]
    exact add_sub_cancel_left ..
  rw [measured, ownRounds_rttStd fresh, elapsed, countMicroseconds_microsecondsFrom,
    toInt_toInt fits.1 fits.2]

/-- Samples of which every fourth is negative, and some are zero. -/
def unsteady (k : Nat) : Int := if k % 4 = 3 then -5 else 20 * (k % 3)

theorem estimates_stay_within_unsteady :
    let g : Globals := {}
    let before := beforeRound {} g (measured unsteady) 9
    let after := beforeRound {} g (measured unsteady) 10
    before.path.AddRttFits (row {} g (measured unsteady) 9).rttStd ∧
      (-5 ≤ after.path.rtt.toInt ∧ after.path.rtt.toInt ≤ 40) ∧
      (0 ≤ (-5 : Int) → 0 ≤ after.path.rttVar.toInt ∧ after.path.rttVar.toInt ≤ 40) ∧
      (g.tsbpd.timeBase = epoch → before.tsbpd.timeBase ≠ epoch →
        InInt ((samples {} g (measured unsteady) 9).rttUs.toInt -
          before.tsbpd.firstRttUs.toInt)) := by
  apply estimates_stay_within {} {} (measured unsteady) (-5) 40 (by decide) rfl 9
  intro j _
  have small : -5 ≤ unsteady j ∧ unsteady j ≤ 40 := by
    unfold unsteady
    split
    · omega
    · omega
  have fits : InInt (unsteady j) := by
    unfold InInt
    omega
  rw [measured_rttStd (g := {}) rfl fits]
  exact small

/-- Every sample is the same: each average is repeated, that of the variance against the
distance from the sample to the RTT before it. -/
theorem estimate_repeats {sample : Int32} (estimated : 0 < g.path.rtt.toInt)
    (spread : 0 ≤ g.path.rttVar.toInt) (positive : 0 < sample.toInt)
    (steady : ∀ k, (row cfg g rounds k).rttStd = sample) (k : Nat) :
    (beforeRound cfg g rounds (k + 1)).path.rtt.toInt =
        flooredMean 8 (beforeRound cfg g rounds k).path.rtt.toInt sample.toInt ∧
      (beforeRound cfg g rounds (k + 1)).path.rttVar.toInt =
        flooredMean 4 (beforeRound cfg g rounds k).path.rttVar.toInt
          |sample.toInt - (beforeRound cfg g rounds k).path.rtt.toInt| ∧
      0 ≤ (beforeRound cfg g rounds k).path.rttVar.toInt := by
  have width : (2 ^ 31 - 1 : Int) - 1 < 2 ^ 31 := by decide
  have start : RttEstimate.Within 1 (2 ^ 31 - 1) g.path.estimate := by
    have := g.path.rtt.toInt_lt
    have := g.path.rttVar.toInt_lt
    refine ⟨?_, fun _ => ?_⟩
    · dsimp only [PathMetrics.estimate]
      omega
    · dsimp only [PathMetrics.estimate]
      omega
  have range (n : Nat) : SamplesWithin cfg g rounds 1 (2 ^ 31 - 1) n := by
    intro j _
    have := sample.toInt_lt
    rw [steady j]
    omega
  have within : RttEstimate.Within 1 (2 ^ 31 - 1) (beforeRound cfg g rounds k).path.estimate := by
    cases k with
    | zero => exact start
    | succ k => exact (estimate_run width (Or.inr start) (range (k + 1))).2
  have fits := (estimate_run width (Or.inr start) (range (k + 1))).1
  have step := estimate_succ fits
  have known : (beforeRound cfg g rounds k).path.estimate.rtt ≠ 0 := by
    have := within.rtt
    omega
  rw [steady k, RttEstimate.add, if_neg known] at step
  exact ⟨congrArg RttEstimate.rtt step, congrArg RttEstimate.rttVar step,
    (within.rttVar (by decide)).1⟩

/-- Under a steady RTT the estimate moves toward it without passing it, and both averages
are constant in the end: the RTT at most 7 below the sample, and on it when the estimate
came from above, its variance at most 3 below the distance that is left. -/
theorem estimate_settles (cfg : Config) (g : Globals) (rounds : Nat → Round) (sample : Int32)
    (estimated : 0 < g.path.rtt.toInt) (spread : 0 ≤ g.path.rttVar.toInt)
    (positive : 0 < sample.toInt) (steady : ∀ k, (row cfg g rounds k).rttStd = sample) :
    let rtt := fun k => (beforeRound cfg g rounds k).path.rtt.toInt
    let rttVar := fun k => (beforeRound cfg g rounds k).path.rttVar.toInt
    let s := sample.toInt
    (rtt 0 ≤ s → ∀ k, rtt k ≤ rtt (k + 1) ∧ rtt (k + 1) ≤ s) ∧
      (s ≤ rtt 0 → ∀ k, s ≤ rtt (k + 1) ∧ rtt (k + 1) ≤ rtt k) ∧
      ∃ n f v, (∀ k, n ≤ k → rtt k = f ∧ rttVar k = v) ∧
        s - 7 ≤ f ∧ f ≤ s ∧ (s ≤ rtt 0 → f = s) ∧
        max 0 (|s - f| - 3) ≤ v ∧ v ≤ |s - f| := by
  intro rtt rttVar s
  have step := @estimate_repeats cfg g rounds sample estimated spread positive steady
  have repeats : Repeats 8 s rtt 0 := fun k _ => (step k).1
  refine ⟨fun below k => repeats.rises (by decide) below (Nat.zero_le k),
    fun above k => repeats.falls (by decide) above (Nat.zero_le k), ?_⟩
  obtain ⟨late, -, constant, low, high⟩ := repeats.settles (by decide)
  -- from here on the variance has a fixed goal as well
  have chases : Repeats 4 |s - rtt late| rttVar late := by
    intro k hk
    rw [← constant k hk]
    exact (step k).2.1
  obtain ⟨later, after, constantVar, lowVar, highVar⟩ := chases.settles (by decide)
  have nonneg := (step later).2.2
  refine ⟨later, rtt late, rttVar later,
    fun k hk => ⟨constant k (by omega), constantVar k hk⟩, by omega, low, fun above => ?_, ?_,
    lowVar⟩
  · have falls := (repeats.falls (by decide) above (Nat.zero_le late)).1
    rw [constant (late + 1) (by omega)] at falls
    omega
  · exact max_le nonneg (by omega)

/-- An estimate of 100 microseconds under a steady RTT of 1000. -/
theorem estimate_settles_on_thousand :
    let g : Globals := { path := { rtt := 100, rttVar := 7 } }
    let rtt := fun k => (beforeRound {} g (measured fun _ => 1000) k).path.rtt.toInt
    let rttVar := fun k => (beforeRound {} g (measured fun _ => 1000) k).path.rttVar.toInt
    let s := Int32.toInt 1000
    (rtt 0 ≤ s → ∀ k, rtt k ≤ rtt (k + 1) ∧ rtt (k + 1) ≤ s) ∧
      (s ≤ rtt 0 → ∀ k, s ≤ rtt (k + 1) ∧ rtt (k + 1) ≤ rtt k) ∧
      ∃ n f v, (∀ k, n ≤ k → rtt k = f ∧ rttVar k = v) ∧
        s - 7 ≤ f ∧ f ≤ s ∧ (s ≤ rtt 0 → f = s) ∧
        max 0 (|s - f| - 3) ≤ v ∧ v ≤ |s - f| := by
  intro g
  apply estimate_settles {} g (measured fun _ => 1000) 1000 (by decide) (by decide) (by decide)
  intro k
  rw [← Int32.toInt_inj, measured_rttStd (g := g) rfl (by decide)]
  rfl

/-- Round `k` moves the smoothed RTT by at most the eighth part of the distance to its
sample, rounded up. -/
def SmoothRound (cfg : Config) (g : Globals) (rounds : Nat → Round) (k : Nat) : Prop :=
  let rtt := (beforeRound cfg g rounds k).path.rtt.toInt
  let sample := (row cfg g rounds k).rttStd.toInt
  |(beforeRound cfg g rounds (k + 1)).path.rtt.toInt - rtt| ≤ ⌈((|sample - rtt| : Int) : ℚ) / 8⌉

theorem smoothRound_iff (start : g.path.rtt = 0)
    (nonneg : ∀ j ≤ k, 0 ≤ (row cfg g rounds j).rttStd.toInt) :
    SmoothRound cfg g rounds k ↔
      (beforeRound cfg g rounds k).path.rtt ≠ 0 ∨ (row cfg g rounds k).rttStd.toInt ≤ 1 := by
  have width : (2 ^ 31 - 1 : Int) - 0 < 2 ^ 31 := by decide
  have none : g.path.estimate.rtt = 0 := g.path.rtt_eq_zero_iff.mp start
  have range : SamplesWithin cfg g rounds 0 (2 ^ 31 - 1) (k + 1) := by
    intro j hj
    have := (row cfg g rounds j).rttStd.toInt_lt
    have := nonneg j (by omega)
    omega
  have fits := (estimate_run width (Or.inl none) range).1
  have after := congrArg RttEstimate.rtt (estimate_succ fits)
  rw [ne_eq, PathMetrics.rtt_eq_zero_iff,
    ← RttEstimate.smooth_iff (nonneg k (Nat.le_refl k)), RttEstimate.Smooth, ← after]
  rfl

/-- In a run from no estimate with samples of at least 0, every later sample moves the
smoothed RTT smoothly exactly when each of them finds an estimate other than 0, or is at
most 1. -/
theorem later_samples_smooth_iff (cfg : Config) (g : Globals) (rounds : Nat → Round)
    (start : g.path.rtt = 0) (nonneg : ∀ k, 0 ≤ (row cfg g rounds k).rttStd.toInt) :
    (∀ k, 1 ≤ k → SmoothRound cfg g rounds k) ↔
      ∀ k, 1 ≤ k → (beforeRound cfg g rounds k).path.rtt ≠ 0 ∨
        (row cfg g rounds k).rttStd.toInt ≤ 1 := by
  have each (k : Nat) := @smoothRound_iff cfg g rounds k start fun j _ => nonneg j
  simp only [each]

/-- Samples of at least one microsecond never let the estimate return to 0. -/
theorem rtt_pos_of_samples_pos (start : g.path.rtt = 0)
    (positive : ∀ j ≤ k, 0 < (row cfg g rounds j).rttStd.toInt) :
    0 < (beforeRound cfg g rounds (k + 1)).path.rtt.toInt := by
  have width : (2 ^ 31 - 1 : Int) - 1 < 2 ^ 31 := by decide
  have none : g.path.estimate.rtt = 0 := g.path.rtt_eq_zero_iff.mp start
  have range : SamplesWithin cfg g rounds 1 (2 ^ 31 - 1) (k + 1) := by
    intro j hj
    have := (row cfg g rounds j).rttStd.toInt_lt
    have := positive j (by omega)
    omega
  exact (estimate_run width (Or.inl none) range).2.rtt.1

/-- RTTs of 1, 0 and 1000 microseconds. -/
def vanishing (k : Nat) : Int := if k = 0 then 1 else if k = 1 then 0 else 1000

theorem vanishing_range (k : Nat) : 0 ≤ vanishing k ∧ vanishing k ≤ 1000 := by
  unfold vanishing
  split
  · omega
  · split
    · omega
    · omega

theorem vanishing_rttStd (k : Nat) :
    (row {} {} (measured vanishing) k).rttStd.toInt = vanishing k := by
  have fits : InInt (vanishing k) := by
    have := vanishing_range k
    unfold InInt
    omega
  exact measured_rttStd (g := {}) rfl fits

theorem vanishing_rttStd_nonneg (k : Nat) :
    0 ≤ (row {} {} (measured vanishing) k).rttStd.toInt := by
  rw [vanishing_rttStd]
  exact (vanishing_range k).1

theorem later_samples_smooth_vanishing :
    (∀ k, 1 ≤ k → SmoothRound {} {} (measured vanishing) k) ↔
      ∀ k, 1 ≤ k → (beforeRound {} {} (measured vanishing) k).path.rtt ≠ 0 ∨
        (row {} {} (measured vanishing) k).rttStd.toInt ≤ 1 :=
  later_samples_smooth_iff {} {} (measured vanishing) rfl vanishing_rttStd_nonneg

/-- The second sample takes the estimate from 1 to 0, and the third replaces it. -/
theorem third_sample_replaces_estimate :
    ¬ ∀ (cfg : Config) (g : Globals) (rounds : Nat → Round), g.path.rtt = 0 →
      (∀ k, 0 ≤ (row cfg g rounds k).rttStd.toInt) → 0 < (row cfg g rounds 0).rttStd.toInt →
      ∀ k, 1 ≤ k → SmoothRound cfg g rounds k := by
  intro smooth
  have first : 0 < (row {} {} (measured vanishing) 0).rttStd.toInt := by
    rw [vanishing_rttStd]
    decide
  have third := smooth {} {} (measured vanishing) rfl vanishing_rttStd_nonneg first 2 (by decide)
  have gone : (beforeRound {} {} (measured vanishing) 2).path.rtt = 0 := by decide +kernel
  rcases (smoothRound_iff rfl fun j _ => vanishing_rttStd_nonneg j).mp third with estimated | small
  · exact estimated gone
  · rw [vanishing_rttStd] at small
    exact absurd small (by decide)

end Globals

end DriftTracing.Source
