import DriftTracing.Guarantees.DriftSamples
import DriftTracing.Source.PlotScripts

/-!
# Reconstructing the uncorrected drift from the trace

plot-drift.py adds to each sample the overdrifts up to and including its own row. The
sample of a row was measured before the overdrift of that row was applied, so the sum
is right exactly on the rows that apply none. The same sum is right for the published
drift, which has the overdrift of its row taken off already.
-/
namespace DriftTracing.Source.Globals
open DriftTracing.Lib

/-- The first `n` rounds of a run without RTT compensation and without wraps, whose
reception times are whole microseconds. -/
structure PlainRun (cfg : Config) (g : Globals) (rounds : Nat → Round) (recv : Nat → Int)
    (n : Nat) : Prop where
  unset : g.tsbpd = {}
  uncompensated : cfg.compensateRtt = false
  received : ∀ k < n, (rounds k).recvTimeStd = microsecondsFrom (recv k)
  noWrap : Tsbpd.NoWrap (samples cfg g rounds) n
  set : Tsbpd.StaysSet (samples cfg g rounds) n

/-- The drift of sample `k` against the initial base. -/
def uncorrected (rounds : Nat → Round) (recv : Nat → Int) (k : Nat) : Int :=
  recv k - (recv 0 - (rounds 0).ackpkt.timestamp.toNat + (rounds k).ackpkt.timestamp.toNat)

/-- The drift of a round against the base of a state. -/
def driftFrom (g : Globals) (r : Round) : Int :=
  countMicroseconds
    (r.recvTimeStd - (g.tsbpd.timeBase + microsecondsFrom r.ackpkt.timestamp.toNat))

/-- Round `k` completes a block of samples whose truncated mean, against the base before
the round, exceeds the maximal drift. -/
def Exceeds (cfg : Config) (g : Globals) (rounds : Nat → Round) (k : Nat) : Prop :=
  let span := TSBPD_DRIFT_MAX_SAMPLES.toNat
  1 ≤ k ∧ span ∣ k ∧
    TSBPD_DRIFT_MAX_VALUE.toInt <
      ((∑ j ∈ Finset.Ico (k + 1 - span) (k + 1),
        driftFrom (beforeRound cfg g rounds k) (rounds j)).tdiv span).natAbs

/-- The file with the rows of the first `n` rounds. -/
def traceFile (cfg : Config) (g : Globals) (rounds : Nat → Round) (n : Nat) : List LogRow :=
  (List.range n).map fun k => (row cfg g rounds k).log

variable {cfg : Config} {g : Globals} {rounds : Nat → Round} {recv : Nat → Int} {n k : Nat}

theorem PlainRun.initialBase (h : PlainRun cfg g rounds recv n) (first : 0 < n) :
    Tsbpd.initialBase (samples cfg g rounds) =
      microsecondsFrom (recv 0 - (rounds 0).ackpkt.timestamp.toNat) := by
  rw [Tsbpd.initialBase, samples_recvTimeStd, samples_timestampUs, h.received 0 first]
  simp only [microsecondsFrom]
  omega

/-- The base before a later round is the initial one and the overdrifts logged so far. -/
theorem PlainRun.timeBase (h : PlainRun cfg g rounds recv n) (hk : k + 1 < n) :
    (beforeRound cfg g rounds (k + 1)).tsbpd.timeBase =
      Tsbpd.initialBase (samples cfg g rounds) +
        microsecondsFrom (Tsbpd.correction (samples cfg g rounds) (k + 1)) := by
  have base := (Tsbpd.base_follows _ (h.set.mono (m := k + 1) (by omega))).base
  have settled : Tsbpd.tracker (samples cfg g rounds) k = {} :=
    Unwrap.Tracker.after_eq_start fun j hj => h.noWrap j (by omega)
  rw [beforeRound_tsbpd h.unset, base, settled]
  simp

/-- Any round against that base: its uncorrected drift, without the overdrifts. -/
theorem PlainRun.driftFrom (h : PlainRun cfg g rounds recv n) (hk : k + 1 < n) {j : Nat}
    (hj : j < n) :
    driftFrom (beforeRound cfg g rounds (k + 1)) (rounds j) =
      uncorrected rounds recv j - Tsbpd.correction (samples cfg g rounds) (k + 1) := by
  rw [Globals.driftFrom, h.timeBase hk, h.initialBase (by omega), h.received j hj]
  generalize Tsbpd.correction (samples cfg g rounds) (k + 1) = S
  have drift : microsecondsFrom (recv j) - (microsecondsFrom (recv 0 -
      (rounds 0).ackpkt.timestamp.toNat) + microsecondsFrom S +
        microsecondsFrom (rounds j).ackpkt.timestamp.toNat) =
      microsecondsFrom (uncorrected rounds recv j - S) := by
    simp only [microsecondsFrom, uncorrected]
    omega
  rw [drift, countMicroseconds_microsecondsFrom]

/-- The sample of a round is its drift against the base before it. -/
theorem PlainRun.sample (h : PlainRun cfg g rounds recv n) (hk : k + 1 < n) :
    (row cfg g rounds (k + 1)).driftSampleStd =
      uncorrected rounds recv (k + 1) - Tsbpd.correction (samples cfg g rounds) (k + 1) := by
  have value := Tsbpd.driftUs_noWrap (fun j hj => h.noWrap j (by omega))
    (h.set.mono (m := k + 2) (by omega))
  have rtt (j : Nat) : (samples cfg g rounds j).rttUs = 0 :=
    samples_rttUs_uncompensated h.uncompensated
  have half : ((0 : Int32).toInt - (0 : Int32).toInt).tdiv 2 = 0 := by decide
  have own := h.driftFrom hk hk
  rw [Globals.driftFrom] at own
  rw [rtt, rtt, half, ← h.timeBase hk, samples_recvTimeStd, samples_timestampUs, own,
    Int.sub_zero] at value
  rw [(row_tsbpd h.unset (k + 1)).1, value]

theorem PlainRun.rawDrift (h : PlainRun cfg g rounds recv n) (hk : k + 1 < n) :
    Tsbpd.rawDrift (samples cfg g rounds) k = uncorrected rounds recv (k + 1) := by
  have started := h.set.mono (m := k + 1) (by omega)
  have returned := (Tsbpd.onSample_set (h.set (k + 1) (by omega) hk)
    (samples cfg g rounds (k + 1)) _ (Tsbpd.base_follows _ started).flag).1
  have sample := h.sample hk
  rw [(row_tsbpd h.unset (k + 1)).1, returned] at sample
  rw [Tsbpd.rawDrift, sample, Int.sub_add_cancel]

/-- The block that a round completes, measured against the base before the round. -/
theorem PlainRun.blockMean (h : PlainRun cfg g rounds recv n) (hk : k + 1 < n)
    (closed : TSBPD_DRIFT_MAX_SAMPLES.toNat ∣ k + 1) :
    DriftTracer.blockMean TSBPD_DRIFT_MAX_SAMPLES
        (DriftLoop.sample TSBPD_DRIFT_MAX_SAMPLES TSBPD_DRIFT_MAX_VALUE
          (Tsbpd.rawDrift (samples cfg g rounds))) (k + 1) =
      (∑ j ∈ Finset.Ico (k + 1 + 1 - TSBPD_DRIFT_MAX_SAMPLES.toNat) (k + 1 + 1),
        Globals.driftFrom (beforeRound cfg g rounds (k + 1)) (rounds j)).tdiv
          TSBPD_DRIFT_MAX_SAMPLES.toNat := by
  have full := Nat.le_of_dvd (Nat.succ_pos k) closed
  have last := (Blocks.dvd_succ_iff _ _ maxSamples_pos).mp closed
  have first : k + 1 + 1 - TSBPD_DRIFT_MAX_SAMPLES.toNat =
      k + 1 - TSBPD_DRIFT_MAX_SAMPLES.toNat + 1 := by omega
  have shift := (Tsbpd.driftLoop_of_calls _ (h.set.mono (m := k + 1) (by omega))).2
  have sums : ∑ i ∈ Finset.Ico (k + 1 - TSBPD_DRIFT_MAX_SAMPLES.toNat) (k + 1),
      DriftLoop.sample TSBPD_DRIFT_MAX_SAMPLES TSBPD_DRIFT_MAX_VALUE
        (Tsbpd.rawDrift (samples cfg g rounds)) i =
      ∑ i ∈ Finset.Ico (k + 1 - TSBPD_DRIFT_MAX_SAMPLES.toNat) (k + 1),
        Globals.driftFrom (beforeRound cfg g rounds (k + 1)) (rounds (i + 1)) := by
    apply Finset.sum_congr rfl
    intro i hi
    rw [Finset.mem_Ico] at hi
    rw [DriftLoop.sample, h.rawDrift (by omega), h.driftFrom hk (by omega), shift,
      DriftLoop.shift_in_block maxSamples_pos _ k (by omega) (by omega)]
  rw [DriftTracer.blockMean, Blocks.lastSum, first, sums,
    ← Finset.sum_Ico_add' fun j =>
      Globals.driftFrom (beforeRound cfg g rounds (k + 1)) (rounds j)]

/-- The overdrifts of the rows grow with a later round exactly when it exceeds. -/
theorem PlainRun.correction_eq_iff (h : PlainRun cfg g rounds recv n) (hk : k + 1 < n) :
    Tsbpd.correction (samples cfg g rounds) (k + 1 + 1) =
        Tsbpd.correction (samples cfg g rounds) (k + 1) ↔
      ¬ Exceeds cfg g rounds (k + 1) := by
  rw [(Tsbpd.driftLoop_of_calls _ (h.set.mono (m := k + 1 + 1) (by omega))).2,
    (Tsbpd.driftLoop_of_calls _ (h.set.mono (m := k + 1) (by omega))).2]
  by_cases closed : TSBPD_DRIFT_MAX_SAMPLES.toNat ∣ k + 1
  · rw [DriftLoop.shift_closed maxSamples_pos _ closed, add_eq_left,
      Deadband.correction_eq_zero_iff (by decide), h.blockMean hk closed, Exceeds, ← not_lt]
    simp [closed]
  · rw [DriftLoop.shift_open maxSamples_pos _ closed, Exceeds]
    simp [closed]

/-- The value the script computes for a row. -/
theorem PlainRun.actual_eq_iff (h : PlainRun cfg g rounds recv n) (hk : k < n) :
    (row cfg g rounds k).driftSampleStd + loggedOverdrift cfg g rounds (k + 1) =
        uncorrected rounds recv k ↔ ¬ Exceeds cfg g rounds k := by
  rw [loggedOverdrift_eq h.unset (h.set.mono (m := k + 1) hk)]
  cases k with
  | zero =>
    have sample : (row cfg g rounds 0).driftSampleStd = 0 := by
      rw [(row_tsbpd h.unset 0).1, Tsbpd.onSample_unset rfl]
    rw [sample, Tsbpd.correction_one, uncorrected, Exceeds]
    simp
  | succ k =>
    rw [h.sample hk, ← h.correction_eq_iff hk]
    omega

theorem actual_samples_eq_iff (column : Nat → Int) :
    PlotDrift.usDriftSampleStdActual (traceFile cfg g rounds n) = (List.range n).map column ↔
      ∀ k < n, (row cfg g rounds k).driftSampleStd + loggedOverdrift cfg g rounds (k + 1) =
        column k := by
  rw [traceFile, PlotDrift.usDriftSampleStdActual_range, List.map_inj_left]
  simp only [List.mem_range]
  rfl

/-- The column of actual samples is the one of the uncorrected drifts exactly when no row
exceeds. -/
theorem actual_samples_uncorrected_iff (cfg : Config) (g : Globals) (rounds : Nat → Round)
    (recv : Nat → Int) (n : Nat) (h : PlainRun cfg g rounds recv n) :
    PlotDrift.usDriftSampleStdActual (traceFile cfg g rounds n) =
        (List.range n).map (uncorrected rounds recv) ↔
      ∀ k < n, ¬ Exceeds cfg g rounds k := by
  rw [actual_samples_eq_iff]
  exact forall₂_congr fun k hk => h.actual_eq_iff hk

/-- The column of published drifts: at a completed block it is the truncated mean of the
block, with the overdrifts that were taken off its samples. -/
theorem PlainRun.published_actual (h : PlainRun cfg g rounds recv n) (hk : k + 1 < n)
    (closed : TSBPD_DRIFT_MAX_SAMPLES.toNat ∣ k + 1) :
    (PlotDrift.usDriftStdActual (traceFile cfg g rounds n))[k + 1]? =
      some ((∑ j ∈ Finset.Ico (k + 1 + 1 - TSBPD_DRIFT_MAX_SAMPLES.toNat) (k + 1 + 1),
        Globals.driftFrom (beforeRound cfg g rounds (k + 1)) (rounds j)).tdiv
          TSBPD_DRIFT_MAX_SAMPLES.toNat + loggedOverdrift cfg g rounds (k + 1)) := by
  have column : (PlotDrift.usDriftStdActual (traceFile cfg g rounds n))[k + 1]? =
      some ((row cfg g rounds (k + 1)).drift + loggedOverdrift cfg g rounds (k + 2)) := by
    rw [traceFile, PlotDrift.usDriftStdActual_range, List.getElem?_map, List.getElem?_range hk]
    rfl
  rw [column, Option.some.injEq]
  have set := h.set.mono (m := k + 1 + 1) (by omega)
  have loop := (Tsbpd.driftLoop_of_calls _ set).1
  rw [loggedOverdrift_eq h.unset set, loggedOverdrift_eq h.unset (h.set.mono (by omega)),
    (Tsbpd.driftLoop_of_calls _ set).2,
    (Tsbpd.driftLoop_of_calls _ (h.set.mono (m := k + 1) (by omega))).2,
    DriftLoop.shift_closed maxSamples_pos _ closed, ← h.blockMean hk closed,
    (row_tsbpd h.unset (k + 1)).2.1, Tsbpd.drift, loop, DriftLoop.before_tracer,
    DriftTracer.after, Runs.before_succ]
  change (DriftTracer.update (DriftTracer.after _ _ _ k) _).2.drift + _ = _
  rw [(DriftTracer.collects_after maxSamples_pos _ k).update_closed maxSamples_pos closed]
  dsimp only
  omega

/-- A run in which everything after the first ACKACK is 6 milliseconds late. -/
def lateRecv (k : Nat) : Int := 20000 * k + 1000000 + if k = 0 then 0 else 6000

def lateRounds : Nat → Round :=
  ownRounds (fun k => UInt32.ofNat (20000 * k)) (fun k => microsecondsFrom (lateRecv k - 1000))
    (fun k => microsecondsFrom (lateRecv k))

theorem lateRounds_timestamp {k : Nat} (hk : k < 1001) :
    (lateRounds k).ackpkt.timestamp.toNat = 20000 * k := by
  have stamp : (lateRounds k).ackpkt.timestamp = UInt32.ofNat (20000 * k) :=
    ackackOf_timestamp 1 _
  rw [stamp, UInt32.toNat_ofNat']
  exact Nat.mod_eq_of_lt (by omega)

theorem lateRounds_plain : PlainRun {} {} lateRounds lateRecv 1001 := by
  have noWrap : Tsbpd.NoWrap (samples {} {} lateRounds) 1001 := by
    intro k hk
    rw [samples_timestampUs, lateRounds_timestamp hk]
    simp only [MAX_TIMESTAMP, TSBPD_WRAP_PERIOD]
    omega
  refine ⟨rfl, rfl, fun _ _ => rfl, noWrap, Tsbpd.staysSet_first_block noWrap (by decide) ?_⟩
  have received : (samples {} {} lateRounds 0).recvTimeStd = microsecondsFrom (lateRecv 0) := rfl
  have stamp : (samples {} {} lateRounds 0).timestampUs = 0 :=
    ownRounds_timestamp 0
  rw [Tsbpd.initialBase, received, stamp]
  decide

theorem lateRounds_uncorrected {k : Nat} (later : 1 ≤ k) (hk : k < 1001) :
    uncorrected lateRounds lateRecv k = 6000 := by
  rw [uncorrected, lateRounds_timestamp hk, lateRounds_timestamp (by decide), lateRecv, lateRecv,
    if_neg (by omega), if_pos rfl]
  omega

/-- Row 1000 completes the first block, whose mean is 6 milliseconds. -/
theorem lateRounds_exceeds : Exceeds {} {} lateRounds 1000 := by
  have uncorrected_yet : Tsbpd.correction (samples {} {} lateRounds) (999 + 1) = 0 :=
    Tsbpd.correction_first_block (lateRounds_plain.set.mono (by decide)) (by decide)
  have drifts : ∑ j ∈ Finset.Ico (1000 + 1 - 1000) (1000 + 1),
      driftFrom (beforeRound {} {} lateRounds 1000) (lateRounds j) =
      ∑ j ∈ Finset.Ico (1000 + 1 - 1000) (1000 + 1), 6000 := by
    apply Finset.sum_congr rfl
    intro j hj
    rw [Finset.mem_Ico] at hj
    have drift := lateRounds_plain.driftFrom (k := 999) (by decide) (j := j) (by omega)
    rw [uncorrected_yet, lateRounds_uncorrected (by omega) (by omega)] at drift
    exact drift
  unfold Exceeds
  rw [maxSamples_toNat, maxValue_toInt]
  dsimp only
  rw [drifts]
  refine ⟨by decide, by decide, ?_⟩
  simp

theorem actual_samples_uncorrected_late :
    PlotDrift.usDriftSampleStdActual (traceFile {} {} lateRounds 1001) =
        (List.range 1001).map (uncorrected lateRounds lateRecv) ↔
      ∀ k < 1001, ¬ Exceeds {} {} lateRounds k :=
  actual_samples_uncorrected_iff {} {} lateRounds lateRecv 1001 lateRounds_plain

/-- The script's column is not the uncorrected drift: row 1000 counts its own overdrift. -/
theorem actual_sample_of_late_block :
    ¬ ∀ (cfg : Config) (g : Globals) (rounds : Nat → Round) (recv : Nat → Int) (n : Nat),
      PlainRun cfg g rounds recv n →
        PlotDrift.usDriftSampleStdActual (traceFile cfg g rounds n) =
          (List.range n).map (uncorrected rounds recv) := by
  intro same
  have column := same {} {} lateRounds lateRecv 1001 lateRounds_plain
  rw [actual_samples_eq_iff] at column
  have inside : 1000 < 1001 := by decide
  exact (lateRounds_plain.actual_eq_iff inside).mp (column 1000 inside) lateRounds_exceeds

end DriftTracing.Source.Globals
