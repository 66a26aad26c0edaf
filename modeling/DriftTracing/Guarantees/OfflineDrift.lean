import DriftTracing.Guarantees.OfflineModel
import DriftTracing.Guarantees.UncorrectedDrift
import DriftTracing.Lib.MovingAverage

/-!
# The drift that the offline model computes

plot-drift-model.py computes the drift samples again from the trace. Its samples are
those of the application with the overdrifts taken back, without the turn that is missing
where a wrap check ends, and compensated for the RTT whether or not the application did
so. They are that to a microsecond when the clocks tick in whole ones, and to three
otherwise, over any number of wraps; the mean it plots is as near to theirs.
-/
namespace DriftTracing.Source
open DriftTracing.Lib

/-- The difference of two elapsed times in whole microseconds, and the count of their
exact difference. -/
theorem countMicroseconds_elapsed (first later start x : Int) :
    |countMicroseconds (later - start) - countMicroseconds (first - start) - x -
        countMicroseconds (later - first - microsecondsFrom x)| ≤ 2 ∧
      (1000 ∣ start → 1000 ∣ first → 1000 ∣ later →
        countMicroseconds (later - start) - countMicroseconds (first - start) - x =
          countMicroseconds (later - first - microsecondsFrom x)) := by
  constructor
  · have later_near := countMicroseconds_near (later - start)
    have first_near := countMicroseconds_near (first - start)
    have exact_near := countMicroseconds_near (later - first - microsecondsFrom x)
    rw [abs_le]
    simp only [microsecondsFrom] at later_near first_near exact_near ⊢
    omega
  · rintro ⟨s, rfl⟩ ⟨f, rfl⟩ ⟨l, rfl⟩
    have whole (a b : Int) : 1000 * a - 1000 * b = microsecondsFrom (a - b) := by
      simp only [microsecondsFrom]
      omega
    have difference : microsecondsFrom (l - f) - microsecondsFrom x =
        microsecondsFrom (l - f - x) := by
      simp only [microsecondsFrom]
      omega
    simp only [whole, difference, countMicroseconds_microsecondsFrom]
    omega

namespace PlotDriftModel

/-- A column of integers is widened for a half, or cuts it. -/
def StoresHalves (setAt : ℚ → ℚ) : Prop :=
  ∀ m : Int, setAt (m / 2) = m / 2 ∨ setAt (m / 2) = m.tdiv 2

theorem StoresHalves.near {setAt : ℚ → ℚ} (h : StoresHalves setAt) (m : Int) :
    |setAt (m / 2) - m / 2| ≤ 1 / 2 := by
  obtain ⟨near, -⟩ := two_mul_tdiv_two m
  have near : |2 * (m.tdiv 2 : ℚ) - m| ≤ 1 := by exact_mod_cast near
  rcases h m with kept | cut
  · rw [kept]
    norm_num
  · rw [cut]
    rw [abs_le] at near ⊢
    constructor
    · linarith
    · linarith

/-- Half of what is near twice a value, as it is stored. -/
theorem StoresHalves.within {setAt : ℚ → ℚ} (h : StoresHalves setAt) {m y b : Int}
    (apart : |m - 2 * y| ≤ b) : |setAt (m / 2) - y| ≤ (b + 1) / 2 := by
  have apart : |(m : ℚ) - 2 * y| ≤ b := by exact_mod_cast apart
  have kept := abs_le.mp (h.near m)
  rw [abs_le] at apart ⊢
  constructor
  · linarith
  · linarith

/-- What is documented of `ewm(com=com, adjust=False).mean()`: the first value, and then
`(1 - alpha) * mean + alpha * value`, where `alpha` is `1 / (1 + com)`. For values up to
`size` a step is rounded by `ε` at most. -/
structure EwmMean (ewmMean : ℚ → List ℚ → List ℚ) (size ε : ℚ) : Prop where
  length : ∀ com xs, (ewmMean com xs).length = xs.length
  first : ∀ com x xs, (ewmMean com (x :: xs)).getD 0 0 = x
  next : ∀ com xs, 0 ≤ com → (∀ x ∈ xs, |x| ≤ size) → ∀ k, k + 1 < xs.length →
    |(ewmMean com xs).getD (k + 1) 0 - ((1 - 1 / (1 + com)) * (ewmMean com xs).getD k 0 +
      1 / (1 + com) * xs.getD (k + 1) 0)| ≤ ε

/-- The mean of a column that is given row by row. -/
theorem EwmMean.column {ewmMean : ℚ → List ℚ → List ℚ} {size ε : ℚ}
    (h : EwmMean ewmMean size ε) (nonneg : 0 ≤ ε) {com : ℚ} (weight : 0 ≤ com) (x : Nat → ℚ)
    (n : Nat) (bounded : ∀ k < n + 1, |x k| ≤ size) :
    ∃ mean : Nat → ℚ,
      ewmMean com ((List.range (n + 1)).map x) = (List.range (n + 1)).map mean ∧
      ∀ k < n + 1,
        |mean k - movingAverage (1 + com) (x 0) (fun j => x (j + 1)) k| ≤ (1 + com) * ε := by
  have length := h.length com ((List.range (n + 1)).map x)
  have first : (ewmMean com ((List.range (n + 1)).map x)).getD 0 0 = x 0 := by
    rw [List.range_succ_eq_map, List.map_cons, h.first]
  have inside : ∀ y ∈ (List.range (n + 1)).map x, |y| ≤ size := by
    intro y hy
    obtain ⟨i, hi, rfl⟩ := List.mem_map.mp hy
    exact bounded i (List.mem_range.mp hi)
  have next := h.next com ((List.range (n + 1)).map x) weight inside
  rw [List.length_map, List.length_range] at length next
  have value (k : Nat) (hk : k < n + 1) : ((List.range (n + 1)).map x).getD k 0 = x k := by
    simp [hk]
  generalize (List.range (n + 1)).map x = column at length first next value ⊢
  generalize ewmMean com column = means at length first next ⊢
  refine ⟨(means.getD · 0), ?_, fun k hk => ?_⟩
  · apply List.ext_getElem
    · rw [length, List.length_map, List.length_range]
    · intro k inside _
      simp [inside]
  · apply movingAverage_rounded (n := 1 + com) (y := fun i => means.getD i 0) (by linarith)
    · rw [first, sub_self, abs_zero]
      exact mul_nonneg (by linarith) nonneg
    · intro j hj
      rw [weightedMean_eq (by linarith), ← value (j + 1) (by omega)]
      exact next j (by omega)

/-- The mean in exact arithmetic. With `com = 7` the weights are eighths, and floats are exact
for the first values. -/
def exactMean (com : ℚ) (xs : List ℚ) : List ℚ :=
  (List.range xs.length).map (movingAverage (1 + com) (xs.getD 0 0) fun j => xs.getD (j + 1) 0)

theorem exactMean_ewmMean (size : ℚ) : EwmMean exactMean size 0 where
  length com xs := by simp [exactMean]
  first com x xs := by simp [exactMean]
  next com xs weight _ k hk := by
    have mean (i : Nat) (hi : i < xs.length) : (exactMean com xs).getD i 0 =
        movingAverage (1 + com) (xs.getD 0 0) (fun j => xs.getD (j + 1) 0) i := by
      simp [exactMean, hi]
    rw [mean (k + 1) hk, mean k (by omega), movingAverage_succ, weightedMean_eq (by linarith),
      sub_self, abs_zero]

/-- The script reads row `k` in the state it has after the timestamps before it. -/
theorem before_rows (t : PlotDriftModel) (log : Nat → LogRow) (timestamps : Nat → UInt32)
    (isLocalClockStd : Bool)
    (logged : ∀ k, (log k).usAckAckTimestampStd = (timestamps k).toNat) (k : Nat) :
    Runs.before (driftSample isLocalClockStd true) t log k = t.before timestamps k := by
  induction k with
  | zero => rfl
  | succ k ih =>
    have timestamp : ((timestamps k).toNat : Int) = (log k).usAckAckTimestampStd :=
      (logged k).symm
    have observed : t.before timestamps (k + 1) =
        ((t.before timestamps k).getTimeBase (timestamps k).toNat).2 := rfl
    rw [Runs.before_succ, ih, observed, timestamp]
    rfl

theorem getTimeBase_rttBase (t : PlotDriftModel) (timestampUs : Int) :
    (t.getTimeBase timestampUs).2.rttBase = t.rttBase := by
  unfold getTimeBase
  split_ifs
  · rfl
  · rfl
  · rfl
  · rfl
  · rfl

theorem before_rttBase (t : PlotDriftModel) (timestamps : Nat → UInt32) (k : Nat) :
    (t.before timestamps k).rttBase = t.rttBase := by
  induction k with
  | zero => rfl
  | succ k ih => exact (getTimeBase_rttBase _ _).trans ih

end PlotDriftModel

namespace Globals

/-- Round `k` ends the wrap check, after measuring its sample. -/
def EndsWrapCheck (cfg : Config) (g : Globals) (rounds : Nat → Round) (k : Nat) : Prop :=
  (beforeRound cfg g rounds k).tsbpd.wrapCheck = true ∧
    TSBPD_WRAP_PERIOD ≤ (rounds k).ackpkt.timestamp.toNat ∧
      (rounds k).ackpkt.timestamp.toNat ≤ 2 * TSBPD_WRAP_PERIOD

instance (cfg : Config) (g : Globals) (rounds : Nat → Round) (k : Nat) :
    Decidable (EndsWrapCheck cfg g rounds k) :=
  inferInstanceAs (Decidable (_ ∧ _ ∧ _))

/-- The sample of round `k` against the initial base: without the overdrifts, without the
turn that is missing where the round ends the wrap check, and compensated for the RTT. -/
def fullSample (cfg : Config) (g : Globals) (rounds : Nat → Round) (k : Nat) : Int :=
  (row cfg g rounds k).driftSampleStd + loggedOverdrift cfg g rounds k -
    (if EndsWrapCheck cfg g rounds k then (MAX_TIMESTAMP + 1 : Int) else 0) -
    if cfg.compensateRtt then 0
    else ((row cfg g rounds k).rttStd.toInt - (row cfg g rounds 0).rttStd.toInt).tdiv 2

/-- The clock and the reception times of the first `n` rounds are in whole microseconds. -/
def WholeMicroseconds (g : Globals) (rounds : Nat → Round) (n : Nat) : Prop :=
  1000 ∣ g.startTimeStd ∧ ∀ k < n, 1000 ∣ (rounds k).recvTimeStd

variable {cfg : Config} {g : Globals} {rounds : Nat → Round} {n k : Nat}

theorem log_usElapsedStd (k : Nat) :
    (row cfg g rounds k).log.usElapsedStd =
      countMicroseconds ((rounds k).recvTimeStd - g.startTimeStd) :=
  congrArg countMicroseconds (row_elapsedStd k)

/-- Twice the value that the script computes for round `k`, which is an integer. -/
def offlineSample2 (cfg : Config) (g : Globals) (rounds : Nat → Round) (k : Nat) : Int :=
  let timestamps := fun j => (rounds j).ackpkt.timestamp
  let script := PlotDriftModel.init (row cfg g rounds 0).log true true
  2 * (countMicroseconds ((rounds k).recvTimeStd - g.startTimeStd) -
    (script.timeBase timestamps k + (timestamps k).toNat)) -
    ((row cfg g rounds k).rttStd.toInt - (row cfg g rounds 0).rttStd.toInt)

/-- The first row of the script and of the application. -/
theorem offlineSample2_zero (unset : g.tsbpd = {})
    (start : (rounds 0).ackpkt.timestamp.toNat ≤ MAX_TIMESTAMP - TSBPD_WRAP_PERIOD) :
    offlineSample2 cfg g rounds 0 = 0 ∧ fullSample cfg g rounds 0 = 0 := by
  obtain ⟨returned, -⟩ := @PlotDriftModel.Tracks.run _ _
    (PlotDriftModel.init_tracks (row cfg g rounds 0).log true true) (samples cfg g rounds) start 0
  have clear : ¬ EndsWrapCheck cfg g rounds 0 := by
    intro ends
    have flag := ends.1
    rw [beforeRound_tsbpd unset] at flag
    exact Bool.false_ne_true flag
  have sample : (row cfg g rounds 0).driftSampleStd = 0 := by
    rw [(row_tsbpd unset 0).1, Tsbpd.onSample_unset rfl]
  constructor
  · have base : (PlotDriftModel.init (row cfg g rounds 0).log true true).timeBase
        (fun j => (rounds j).ackpkt.timestamp) 0 = _ := returned
    have first : (PlotDriftModel.init (row cfg g rounds 0).log true true).tsbpdBase =
        (row cfg g rounds 0).log.usElapsedStd - (rounds 0).ackpkt.timestamp.toNat := rfl
    rw [offlineSample2, base, first, log_usElapsedStd]
    simp [Tsbpd.tracker, Unwrap.Tracker.after, Unwrap.Tracker.turnsOf]
  · simp [fullSample, loggedOverdrift, clear, sample]

/-- What the application compensates, and what it leaves to the script, is half the
change of the RTT. -/
theorem compensated_sum (k : Nat) :
    ((samples cfg g rounds k).rttUs.toInt - (samples cfg g rounds 0).rttUs.toInt).tdiv 2 +
        (if cfg.compensateRtt then 0
          else ((row cfg g rounds k).rttStd.toInt - (row cfg g rounds 0).rttStd.toInt).tdiv 2) =
      ((row cfg g rounds k).rttStd.toInt - (row cfg g rounds 0).rttStd.toInt).tdiv 2 := by
  rw [samples_halfChange]
  split
  · exact Int.add_zero _
  · exact Int.zero_add _

/-- The turns that the script credits to a later timestamp: one more than the application
where the wrap check ends. -/
theorem script_timeBase_succ (unset : g.tsbpd = {})
    (start : (rounds 0).ackpkt.timestamp.toNat ≤ MAX_TIMESTAMP - TSBPD_WRAP_PERIOD)
    (set : Tsbpd.StaysSet (samples cfg g rounds) (k + 1)) :
    let timestamps := fun j => (rounds j).ackpkt.timestamp
    (PlotDriftModel.init (row cfg g rounds 0).log true true).timeBase timestamps (k + 1) =
      countMicroseconds ((rounds 0).recvTimeStd - g.startTimeStd) - (timestamps 0).toNat +
        (Tsbpd.period * (Tsbpd.tracker (samples cfg g rounds) k).turnsOf TSBPD_WRAP_PERIOD
          (timestamps (k + 1)).toNat +
        if EndsWrapCheck cfg g rounds (k + 1) then (MAX_TIMESTAMP + 1 : Int) else 0) := by
  intro timestamps
  have returned : (PlotDriftModel.init (row cfg g rounds 0).log true true).timeBase timestamps
      (k + 1) = (PlotDriftModel.init (row cfg g rounds 0).log true true).tsbpdBase +
        Tsbpd.period * (Tsbpd.tracker (samples cfg g rounds) (k + 1)).turnsOf TSBPD_WRAP_PERIOD
          (timestamps (k + 1)).toNat :=
    (@PlotDriftModel.Tracks.run _ _ (PlotDriftModel.init_tracks _ true true)
      (samples cfg g rounds) start (k + 1)).1
  have flag := (Tsbpd.base_follows (samples cfg g rounds) set).flag
  have ends : EndsWrapCheck cfg g rounds (k + 1) ↔
      (Tsbpd.tracker (samples cfg g rounds) k).Commits TSBPD_WRAP_PERIOD
        (timestamps (k + 1)).toNat := by
    unfold EndsWrapCheck Unwrap.Tracker.Commits
    rw [beforeRound_tsbpd unset, flag]
  have first : (PlotDriftModel.init (row cfg g rounds 0).log true true).tsbpdBase =
      countMicroseconds ((rounds 0).recvTimeStd - g.startTimeStd) - (timestamps 0).toNat := by
    rw [← @log_usElapsedStd cfg]
    rfl
  have observed : Tsbpd.tracker (samples cfg g rounds) (k + 1) =
      (Tsbpd.tracker (samples cfg g rounds) k).observe Tsbpd.period TSBPD_WRAP_PERIOD
        (timestamps (k + 1)).toNat := rfl
  rw [returned, first, observed, Unwrap.Tracker.turnsOf_observe (by decide)]
  have turn : (MAX_TIMESTAMP + 1 : Int) = Tsbpd.period := by decide
  by_cases commits : EndsWrapCheck cfg g rounds (k + 1)
  · rw [if_pos commits, if_pos (ends.mp commits), turn]
    push_cast
    ring
  · rw [if_neg commits, if_neg (mt ends.mpr commits)]
    push_cast
    ring

/-- A later row: one microsecond is lost in each of the two rounded elapsed times at
most, and half of one in the compensation. -/
theorem offlineSample2_near (unset : g.tsbpd = {})
    (start : (rounds 0).ackpkt.timestamp.toNat ≤ MAX_TIMESTAMP - TSBPD_WRAP_PERIOD)
    (set : Tsbpd.StaysSet (samples cfg g rounds) (k + 2)) :
    |offlineSample2 cfg g rounds (k + 1) - 2 * fullSample cfg g rounds (k + 1)| ≤ 5 ∧
      (WholeMicroseconds g rounds (k + 2) →
        |offlineSample2 cfg g rounds (k + 1) - 2 * fullSample cfg g rounds (k + 1)| ≤ 1) := by
  have started := set.mono (Nat.le_succ _)
  have follows := Tsbpd.base_follows (samples cfg g rounds) started
  have value := (Tsbpd.onSample_set (set (k + 1) (by omega) (by omega))
    (samples cfg g rounds (k + 1)) _ follows.flag).1
  have base := @script_timeBase_succ cfg g rounds k unset start started
  have half := @compensated_sum cfg g rounds (k + 1)
  obtain ⟨lost, -⟩ := two_mul_tdiv_two
    ((row cfg g rounds (k + 1)).rttStd.toInt - (row cfg g rounds 0).rttStd.toInt)
  rw [Tsbpd.driftUs, follows.getPktTimeBase_eq, follows.rtt] at value
  rw [offlineSample2, fullSample, base, (row_tsbpd unset (k + 1)).1, value,
    loggedOverdrift_eq unset started]
  dsimp only [samples_recvTimeStd, samples_timestampUs, Tsbpd.initialBase]
  generalize Tsbpd.correction (samples cfg g rounds) (k + 1) = applied
  generalize (Tsbpd.period * Unwrap.Tracker.turnsOf _ _ _ : Int) = turns
  generalize ((rounds (k + 1)).ackpkt.timestamp.toNat : Int) = ts
  generalize ((rounds 0).ackpkt.timestamp.toNat : Int) = ts0
  have measured : (rounds (k + 1)).recvTimeStd - ((rounds 0).recvTimeStd - microsecondsFrom ts0 +
      microsecondsFrom applied + microsecondsFrom turns + microsecondsFrom ts) =
      (rounds (k + 1)).recvTimeStd - (rounds 0).recvTimeStd -
        microsecondsFrom (applied + turns + ts - ts0) := by
    simp only [microsecondsFrom]
    omega
  obtain ⟨near, whole⟩ := countMicroseconds_elapsed (rounds 0).recvTimeStd
    (rounds (k + 1)).recvTimeStd g.startTimeStd (applied + turns + ts - ts0)
  rw [measured]
  rw [abs_le] at lost near
  constructor
  · rw [abs_le]
    omega
  · intro clocks
    have equal := whole clocks.1 (clocks.2 0 (by omega)) (clocks.2 (k + 1) (by omega))
    rw [abs_le]
    omega

/-- The value that the script assigns to its row `k`. -/
theorem driftSample_row (k : Nat) :
    let script := PlotDriftModel.init (row cfg g rounds 0).log true true
    ((script.before (fun j => (rounds j).ackpkt.timestamp) k).driftSample true true
      (row cfg g rounds k).log).1 = (offlineSample2 cfg g rounds k : ℚ) / 2 := by
  intro script
  have rttBase : (script.before (fun j => (rounds j).ackpkt.timestamp) k).rttBase =
      (row cfg g rounds 0).rttStd.toInt := PlotDriftModel.before_rttBase _ _ k
  have rtt : (row cfg g rounds k).log.usRTTStd = (row cfg g rounds k).rttStd.toInt := rfl
  rw [PlotDriftModel.driftSample, offlineSample2]
  simp only [if_true, rttBase, rtt, log_usElapsedStd]
  have timeBase : script.timeBase (fun j => (rounds j).ackpkt.timestamp) k =
      ((script.before (fun j => (rounds j).ackpkt.timestamp) k).getTimeBase
        (row cfg g rounds k).log.usAckAckTimestampStd).1 := rfl
  have timestamp : (row cfg g rounds k).log.usAckAckTimestampStd =
      (rounds k).ackpkt.timestamp.toNat := rfl
  rw [timeBase, timestamp]
  push_cast
  ring

/-- The value that the column keeps for row `k`. -/
def storedSample (setAt : ℚ → ℚ) (cfg : Config) (g : Globals) (rounds : Nat → Round) (k : Nat) :
    ℚ :=
  setAt (offlineSample2 cfg g rounds k / 2)

/-- The columns of the script for a trace file with rows. -/
theorem calculateDrift_traceFile (setAt : ℚ → ℚ) (ewmMean : ℚ → List ℚ → List ℚ) (n : Nat) :
    PlotDriftModel.calculateDrift setAt ewmMean true true (traceFile cfg g rounds (n + 1)) =
      some ((List.range (n + 1)).map (storedSample setAt cfg g rounds),
        ewmMean 7 ((List.range (n + 1)).map (storedSample setAt cfg g rounds))) := by
  have rows : traceFile cfg g rounds (n + 1) = (row cfg g rounds 0).log ::
      (List.range n).map fun k => (row cfg g rounds (k + 1)).log := by
    rw [traceFile, List.range_succ_eq_map, List.map_cons, List.map_map]
    rfl
  have column : (Runs.run (PlotDriftModel.driftSample true true)
      (PlotDriftModel.init (row cfg g rounds 0).log true true)
        (traceFile cfg g rounds (n + 1))).1 =
      (List.range (n + 1)).map fun k => (offlineSample2 cfg g rounds k / 2 : ℚ) := by
    rw [traceFile, Runs.run_map_range]
    apply List.map_congr_left
    intro k _
    rw [PlotDriftModel.before_rows _ _ (fun j => (rounds j).ackpkt.timestamp) _ fun _ => rfl]
    exact driftSample_row k
  rw [rows, PlotDriftModel.calculateDrift, ← rows, column, List.map_map]
  rfl

/-- What the script computes of values that are near others: the column is as near, and so
is its mean, up to what the steps of the mean are rounded by. -/
theorem calculateDrift_near {setAt : ℚ → ℚ} {ewmMean : ℚ → List ℚ → List ℚ} {size ε : ℚ}
    (means : PlotDriftModel.EwmMean ewmMean size ε) (nonneg : 0 ≤ ε) (n : Nat) {δ : ℚ}
    {value : Nat → ℚ} (bounded : ∀ k < n + 1, |value k| + δ ≤ size)
    (near : ∀ k < n + 1, |storedSample setAt cfg g rounds k - value k| ≤ δ) :
    ∃ mean : Nat → ℚ,
      PlotDriftModel.calculateDrift setAt ewmMean true true (traceFile cfg g rounds (n + 1)) =
        some ((List.range (n + 1)).map (storedSample setAt cfg g rounds),
          (List.range (n + 1)).map mean) ∧
      ∀ (δ' : ℚ) (k : Nat), k < n + 1 →
        (∀ j < n + 1, |storedSample setAt cfg g rounds j - value j| ≤ δ') →
        |mean k - movingAverage 8 (value 0) (fun j => value (j + 1)) k| ≤ δ' + 8 * ε := by
  have com : (1 : ℚ) + 7 = 8 := by norm_num
  have inside (k : Nat) (hk : k < n + 1) : |storedSample setAt cfg g rounds k| ≤ size := by
    have apart := near k hk
    have room := bounded k hk
    have split := abs_add_le (storedSample setAt cfg g rounds k - value k) (value k)
    rw [sub_add_cancel] at split
    linarith
  obtain ⟨mean, column, rounded⟩ :=
    means.column nonneg (by norm_num : (0 : ℚ) ≤ 7) (storedSample setAt cfg g rounds) n inside
  rw [com] at rounded
  refine ⟨mean, by rw [calculateDrift_traceFile, column], fun δ' k hk close => ?_⟩
  have exact_near : |movingAverage 8 (storedSample setAt cfg g rounds 0)
      (fun j => storedSample setAt cfg g rounds (j + 1)) k -
        movingAverage 8 (value 0) (fun j => value (j + 1)) k| ≤ δ' :=
    movingAverage_near (by norm_num) (close 0 (by omega)) fun j hj => close (j + 1) (by omega)
  have step := rounded k hk
  have split := abs_sub_le (mean k) (movingAverage 8 (storedSample setAt cfg g rounds 0)
    (fun j => storedSample setAt cfg g rounds (j + 1)) k)
    (movingAverage 8 (value 0) (fun j => value (j + 1)) k)
  linarith

/-- The mean of the full samples up to round `k`, as the script plots it. -/
def averageFullSample (cfg : Config) (g : Globals) (rounds : Nat → Round) (k : Nat) : ℚ :=
  movingAverage 8 (fullSample cfg g rounds 0) (fun j => fullSample cfg g rounds (j + 1)) k

theorem storedSample_near {setAt : ℚ → ℚ} (stores : PlotDriftModel.StoresHalves setAt)
    (unset : g.tsbpd = {})
    (start : (rounds 0).ackpkt.timestamp.toNat ≤ MAX_TIMESTAMP - TSBPD_WRAP_PERIOD)
    (set : Tsbpd.StaysSet (samples cfg g rounds) n) (hk : k < n) :
    |storedSample setAt cfg g rounds k - fullSample cfg g rounds k| ≤ 3 ∧
      (WholeMicroseconds g rounds n →
        |storedSample setAt cfg g rounds k - fullSample cfg g rounds k| ≤ 1) := by
  have near : |offlineSample2 cfg g rounds k - 2 * fullSample cfg g rounds k| ≤ 5 ∧
      (WholeMicroseconds g rounds n →
        |offlineSample2 cfg g rounds k - 2 * fullSample cfg g rounds k| ≤ 1) := by
    cases k with
    | zero =>
      obtain ⟨offline, full⟩ := offlineSample2_zero unset start
      rw [offline, full]
      exact ⟨by decide, fun _ => by decide⟩
    | succ k =>
      obtain ⟨near, whole⟩ := offlineSample2_near unset start (set.mono (m := k + 2) hk)
      exact ⟨near, fun clocks => whole ⟨clocks.1, fun j hj => clocks.2 j (by omega)⟩⟩
  have five := stores.within near.1
  norm_num at five
  refine ⟨five, fun clocks => ?_⟩
  have one := stores.within (near.2 clocks)
  norm_num at one
  exact one

/-- The offline model of a run gives its full samples up to three microseconds, or up to
one with clocks in whole microseconds, and their moving average up to as much and eight
times what a step of `ewm().mean()` is rounded by. -/
theorem offline_drift_near_application (setAt : ℚ → ℚ) (ewmMean : ℚ → List ℚ → List ℚ)
    (cfg : Config) (g : Globals) (rounds : Nat → Round) (n : Nat) {size ε : ℚ}
    (stores : PlotDriftModel.StoresHalves setAt) (means : PlotDriftModel.EwmMean ewmMean size ε)
    (nonneg : 0 ≤ ε) (unset : g.tsbpd = {})
    (start : (rounds 0).ackpkt.timestamp.toNat ≤ MAX_TIMESTAMP - TSBPD_WRAP_PERIOD)
    (set : Tsbpd.StaysSet (samples cfg g rounds) (n + 1))
    (bounded : ∀ k < n + 1, |(fullSample cfg g rounds k : ℚ)| + 3 ≤ size) :
    ∃ sample mean : Nat → ℚ,
      PlotDriftModel.calculateDrift setAt ewmMean true true (traceFile cfg g rounds (n + 1)) =
          some ((List.range (n + 1)).map sample, (List.range (n + 1)).map mean) ∧
        (∀ k < n + 1, |sample k - fullSample cfg g rounds k| ≤ 3 ∧
          |mean k - averageFullSample cfg g rounds k| ≤ 3 + 8 * ε) ∧
        (WholeMicroseconds g rounds (n + 1) → ∀ k < n + 1,
          |sample k - fullSample cfg g rounds k| ≤ 1 ∧
            |mean k - averageFullSample cfg g rounds k| ≤ 1 + 8 * ε) := by
  have near (k : Nat) (hk : k < n + 1) := @storedSample_near cfg g rounds (n + 1) k setAt stores
    unset start set hk
  obtain ⟨mean, columns, average⟩ := calculateDrift_near means nonneg n bounded
    fun k hk => (near k hk).1
  exact ⟨_, mean, columns,
    fun k hk => ⟨(near k hk).1, average 3 k hk fun j hj => (near j hj).1⟩,
    fun clocks k hk => ⟨(near k hk).2 clocks, average 1 k hk fun j hj => (near j hj).2 clocks⟩⟩

/-- Rounds over a wrap, with RTTs that are odd and even. -/
def overWrap : Nat → Round :=
  ownRounds (fun k => UInt32.ofNat (Tsbpd.sendTimes (Tsbpd.period - 50000000) k))
    (fun k => Tsbpd.recvTimes (Tsbpd.period - 50000000) k - microsecondsFrom (1000 + 7 * k))
    (Tsbpd.recvTimes (Tsbpd.period - 50000000))

theorem overWrap_staysSet : Tsbpd.StaysSet (samples {} {} overWrap) 6 := by
  unfold Tsbpd.StaysSet
  decide +kernel

theorem overWrap_start :
    (overWrap 0).ackpkt.timestamp.toNat ≤ MAX_TIMESTAMP - TSBPD_WRAP_PERIOD := by
  have stamp : (overWrap 0).ackpkt.timestamp = 4244967296 := ackackOf_timestamp 1 _
  rw [stamp]
  decide

theorem overWrap_wholeMicroseconds : WholeMicroseconds {} overWrap 6 := by
  refine ⟨by decide, fun k _ => ?_⟩
  exact ⟨_, Int.mul_comm _ 1000⟩

theorem overWrap_bounded (k : Nat) (hk : k < 5 + 1) :
    |(fullSample {} {} overWrap k : ℚ)| + 3 ≤ 2 ^ 53 := by
  have small : ∀ k < 6, |fullSample {} {} overWrap k| ≤ 2 ^ 52 := by decide +kernel
  have inside : |(fullSample {} {} overWrap k : ℚ)| ≤ 2 ^ 52 := by exact_mod_cast small k hk
  linarith

/-- Through the row that ends the wrap check, with clocks in whole microseconds. -/
theorem offline_drift_near_over_wrap :
    ∃ sample mean : Nat → ℚ,
      PlotDriftModel.calculateDrift id PlotDriftModel.exactMean true true
          (traceFile {} {} overWrap (5 + 1)) =
        some ((List.range (5 + 1)).map sample, (List.range (5 + 1)).map mean) ∧
      (∀ k < 5 + 1, |sample k - fullSample {} {} overWrap k| ≤ 3 ∧
        |mean k - averageFullSample {} {} overWrap k| ≤ 3 + 8 * 0) ∧
      ∀ k < 5 + 1, |sample k - fullSample {} {} overWrap k| ≤ 1 ∧
        |mean k - averageFullSample {} {} overWrap k| ≤ 1 + 8 * 0 := by
  obtain ⟨sample, mean, columns, near, whole⟩ :=
    offline_drift_near_application id PlotDriftModel.exactMean {} {} overWrap 5
      (fun _ => Or.inl rfl) (PlotDriftModel.exactMean_ewmMean (2 ^ 53)) (le_refl 0) rfl
      overWrap_start overWrap_staysSet overWrap_bounded
  exact ⟨sample, mean, columns, near, whole overWrap_wholeMicroseconds⟩

end Globals

end DriftTracing.Source
