import Mathlib.Tactic.Qify
import DriftTracing.Guarantees.OfflineDrift
import DriftTracing.Guarantees.TraceFile
import DriftTracing.Protocol.ClockDrift

/-!
# What is plotted is the drift of the clocks

From the exchange over the trace file to the plot: the column `usDriftSample` that
plot-drift-model.py computes of the rows the text of a trace file decodes to is the change
of the distance between the two clocks since the first row, less half the change of the
RTT, to 3.5 microseconds. It does not depend on what the application corrected, and follows
the clocks over any number of wraps, as long as the answers that are traced are not too far
apart.
-/
namespace DriftTracing.Source
open DriftTracing.Lib

/-- How a distance between two clocks changed since the first row, less half the change of
the RTT, in microseconds. -/
def clockDrift (distance rtt : Nat → Int) (k : Nat) : ℚ :=
  (distance k - distance 0 : Int) / 1000 - (rtt k - rtt 0 : Int) / 2

/-- Times in whole microseconds. -/
def sinceStart (answered : Nat → Int) (k : Nat) : Nat := (countMicroseconds (answered k)).toNat

/-- The answers can be unwrapped: the first is clear of the wrap, and each later one is
within the wrap period of the newest one before. -/
structure Followable (answered : Nat → Int) (n : Nat) : Prop where
  paced : Unwrap.Paced TSBPD_WRAP_PERIOD (sinceStart answered) n
  clear : sinceStart answered 0 % Tsbpd.period ≤ MAX_TIMESTAMP - TSBPD_WRAP_PERIOD

/-- Two answers, in the order they were sent and within the wrap period. -/
theorem Followable.pair {answered : Nat → Int}
    (forward : sinceStart answered 0 ≤ sinceStart answered 1)
    (near : sinceStart answered 1 ≤ sinceStart answered 0 + TSBPD_WRAP_PERIOD)
    (clear : sinceStart answered 0 % Tsbpd.period ≤ MAX_TIMESTAMP - TSBPD_WRAP_PERIOD) :
    Followable answered 2 := by
  have window : 0 < TSBPD_WRAP_PERIOD := by decide
  refine ⟨⟨fun k hk => ?_, fun k hk => ?_, fun k hk => ?_⟩, clear⟩
  · rcases Nat.le_one_iff_eq_zero_or_eq_one.mp (Nat.lt_succ_iff.mp hk) with rfl | rfl
    · exact le_rfl
    · exact forward
  · obtain rfl : k = 0 := by omega
    exact Nat.lt_of_le_of_lt forward (Nat.lt_add_of_pos_right window)
  · obtain rfl : k = 0 := by omega
    exact near

namespace Globals

variable {cfg : Config} {g : Globals} {rounds : Nat → Round} {n k : Nat}
  {answered distance : Nat → Int}

theorem Answers.count (h : Answers answered distance rounds n) (hk : k < n) :
    (sinceStart answered k : Int) = countMicroseconds (answered k) :=
  Int.toNat_of_nonneg (countMicroseconds_nonneg (by have := h.started k hk; omega))

theorem Answers.stamp (h : Answers answered distance rounds n) (hk : k < n) :
    (rounds k).ackpkt.timestamp.toNat = sinceStart answered k % Tsbpd.period := by
  have count := h.count hk
  rw [h.timestamp k hk, UInt32.ofInt, UInt32.toNat_ofNat', ← count]
  simp only [Tsbpd.period]
  omega

/-- The script credits every timestamp the turns of the time it stands for. -/
theorem Answers.turns (h : Answers answered distance rounds n)
    (follows : Followable answered n) (hk : k < n) :
    ((rounds k).ackpkt.timestamp.toNat + Tsbpd.period *
        (Tsbpd.tracker (samples cfg g rounds) k).turnsOf TSBPD_WRAP_PERIOD
          (rounds k).ackpkt.timestamp.toNat : Int) - (rounds 0).ackpkt.timestamp.toNat =
      sinceStart answered k - sinceStart answered 0 := by
  have tracker : Tsbpd.tracker (samples cfg g rounds) k =
      Unwrap.trackerAt Tsbpd.period TSBPD_WRAP_PERIOD (sinceStart answered) k :=
    Unwrap.Tracker.after_congr fun j hj => h.stamp (by omega)
  have turns := follows.paced.turns_eq Tsbpd.room (Tsbpd.clear_of_start follows.clear) hk
  have now := Nat.div_add_mod (sinceStart answered k) Tsbpd.period
  have first := Nat.div_add_mod (sinceStart answered 0) Tsbpd.period
  rw [tracker, h.stamp hk, h.stamp (k := 0) (by omega)]
  rw [turns] at now
  generalize Unwrap.Tracker.turnsOf _ _ (sinceStart answered k % Tsbpd.period) = credited at now ⊢
  simp only [Tsbpd.period] at now first ⊢
  omega

theorem Answers.offlineSample2_eq (h : Answers answered distance rounds n)
    (follows : Followable answered n) (hk : k < n) :
    offlineSample2 cfg g rounds k =
      2 * (countMicroseconds (row cfg g rounds k).elapsedStd -
          countMicroseconds (row cfg g rounds 0).elapsedStd -
          (countMicroseconds (answered k) - countMicroseconds (answered 0))) -
        ((row cfg g rounds k).rttStd.toInt - (row cfg g rounds 0).rttStd.toInt) := by
  have first : 0 < n := by omega
  have start : (rounds 0).ackpkt.timestamp.toNat ≤ MAX_TIMESTAMP - TSBPD_WRAP_PERIOD := by
    rw [h.stamp first]
    exact follows.clear
  have returned : (PlotDriftModel.init (row cfg g rounds 0).log true true).timeBase
      (fun j => (rounds j).ackpkt.timestamp) k = _ :=
    (@PlotDriftModel.Tracks.run _ _ (PlotDriftModel.init_tracks _ true true)
      (samples cfg g rounds) start k).1
  have base : (PlotDriftModel.init (row cfg g rounds 0).log true true).tsbpdBase =
      countMicroseconds (row cfg g rounds 0).elapsedStd - (rounds 0).ackpkt.timestamp.toNat := rfl
  have turns := @Answers.turns cfg g rounds n k answered distance h follows hk
  rw [h.count hk, h.count first] at turns
  rw [offlineSample2, returned, base, row_elapsedStd, row_elapsedStd]
  dsimp only [samples_timestampUs]
  linarith

/-- The RTTs of the rows. -/
def rtts (cfg : Config) (g : Globals) (rounds : Nat → Round) (k : Nat) : Int :=
  (row cfg g rounds k).rttStd.toInt

/-- The elapsed times and the timestamps are rounded to microseconds. -/
theorem Answers.offlineSample_near (h : Answers answered distance rounds n)
    (follows : Followable answered n) (hk : k < n) :
    |(offlineSample2 cfg g rounds k : ℚ) / 2 - clockDrift distance (rtts cfg g rounds) k| ≤ 3 := by
  have elapsed := countMicroseconds_near (row cfg g rounds k).elapsedStd
  have elapsed₀ := countMicroseconds_near (row cfg g rounds 0).elapsedStd
  have sent := microsecondsFrom_countMicroseconds_le (h.started k hk)
  have sent₀ := microsecondsFrom_countMicroseconds_le (h.started 0 (by omega))
  have near := (countMicroseconds_near (answered k)).1
  have near₀ := (countMicroseconds_near (answered 0)).1
  rw [h.offlineSample2_eq follows hk, clockDrift, @Answers.change cfg g _ _ _ _ _ h hk, rtts, rtts]
  generalize countMicroseconds (row cfg g rounds k).elapsedStd = e at elapsed ⊢
  generalize countMicroseconds (row cfg g rounds 0).elapsedStd = e₀ at elapsed₀ ⊢
  generalize countMicroseconds (answered k) = t at sent near ⊢
  generalize countMicroseconds (answered 0) = t₀ at sent₀ near₀ ⊢
  have change : |1000 * (e - e₀ - (t - t₀)) - (((row cfg g rounds k).elapsedStd - answered k) -
      ((row cfg g rounds 0).elapsedStd - answered 0))| ≤ 3000 := by
    simp only [microsecondsFrom] at elapsed elapsed₀ sent sent₀ near near₀
    rw [abs_le]
    omega
  rw [abs_le] at change ⊢
  qify at change
  push_cast at change ⊢
  constructor
  · linarith [change.1]
  · linarith [change.2]

/-- The column of the script, for a file of the rows. -/
theorem Answers.storedSample_near {setAt : ℚ → ℚ} (stores : PlotDriftModel.StoresHalves setAt)
    (h : Answers answered distance rounds n) (follows : Followable answered n) (hk : k < n) :
    |storedSample setAt cfg g rounds k - clockDrift distance (rtts cfg g rounds) k| ≤ 7 / 2 := by
  have kept := abs_le.mp (stores.near (offlineSample2 cfg g rounds k))
  have close := abs_le.mp (@Answers.offlineSample_near cfg g rounds n k answered distance h
    follows hk)
  rw [storedSample, abs_le]
  constructor
  · linarith
  · linarith

end Globals

end DriftTracing.Source

namespace DriftTracing.Protocol.History
open DriftTracing.Lib DriftTracing.Source

variable {Addr : Type}

/-- The RTT of row `k`. -/
def rttAt (h : History Addr) (a : Addr) (k : Nat) : Int :=
  ((h.network.peers a).trace[k]?.map fun row => row.rttStd.toInt).getD 0

/-- The drift of the two clocks that row `k` is about. -/
def driftAt (h : History Addr) (a : Addr) : Nat → ℚ := clockDrift (h.distance a) (h.rttAt a)

variable [DecidableEq Addr]

/-- In every run of every network: each row of a process of a pair is about an answer of the
other one, and the columns that plot-drift-model.py computes of the rows the text of its
trace file decodes to are, row by row, the drift of the two clocks, to 3.5 us, and its moving
average, to as much and eight times what a step of `ewm().mean()` is rounded by. -/
theorem plotted_drift_is_clock_drift {cfg : Addr → Config} {remote : Addr → Option Addr}
    {startStd startSys : Addr → Int} {h : History Addr} {a b : Addr}
    (pair : Network.Pair remote a b) (reachable : Reachable cfg remote startStd startSys h)
    {setAt : ℚ → ℚ} (stores : PlotDriftModel.StoresHalves setAt)
    {ewmMean : ℚ → List ℚ → List ℚ} {size ε : ℚ}
    (means : PlotDriftModel.EwmMean ewmMean size ε) (nonneg : 0 ≤ ε)
    (calls : List StatsLogger.Call) (traced : calls.map (·.row) = (h.network.peers a).trace)
    (rows : calls ≠ [])
    (follows : Followable (fun k => h.answeredAt a k - startStd b) calls.length)
    (bounded : ∀ k < calls.length, |h.driftAt a k| + 7 / 2 ≤ size) :
    HearsFrom startStd startSys h a b ∧
      ∃ sample mean : Nat → ℚ,
        (StatsLogger.readTrace (StatsLogger.fileAfter false calls)).bind
            (PlotDriftModel.calculateDrift setAt ewmMean true true) =
          some ((List.range calls.length).map sample, (List.range calls.length).map mean) ∧
        ∀ k < calls.length,
          |sample k - h.driftAt a k| ≤ 7 / 2 ∧
          |mean k - movingAverage 8 (h.driftAt a 0) (fun j => h.driftAt a (j + 1)) k| ≤
            7 / 2 + 8 * ε := by
  obtain ⟨hears, rounds, trace, heard⟩ := reachable_answers pair reachable
  have length : (h.network.peers a).trace.length = calls.length := by
    rw [← traced, List.length_map]
  rw [length] at trace heard
  obtain ⟨m, count⟩ : ∃ m, calls.length = m + 1 :=
    Nat.exists_eq_succ_of_ne_zero (mt List.length_eq_zero_iff.mp rows)
  have log : calls.map (·.row.log) = Globals.traceFile (cfg a)
      { startTimeStd := startStd a, startTimeSys := startSys a } rounds (m + 1) := by
    rw [← count, Globals.traceFile]
    have := congrArg (List.map TraceRow.log) (traced.trans trace)
    rwa [List.map_map, List.map_map] at this
  have rtt (k : Nat) (hk : k < calls.length) : h.rttAt a k = Globals.rtts (cfg a)
      { startTimeStd := startStd a, startTimeSys := startSys a } rounds k := by
    rw [rttAt, trace, List.getElem?_map, List.getElem?_range hk]
    rfl
  have near (k : Nat) (hk : k < calls.length) : |Globals.storedSample setAt (cfg a)
      { startTimeStd := startStd a, startTimeSys := startSys a } rounds k - h.driftAt a k| ≤
        7 / 2 := by
    rw [driftAt, clockDrift, rtt k hk, rtt 0 (by omega)]
    exact heard.storedSample_near stores follows hk
  rw [count] at near bounded ⊢
  obtain ⟨mean, columns, average⟩ := Globals.calculateDrift_near means nonneg m bounded near
  refine ⟨hears, _, mean, ?_, fun k hk => ⟨near k hk, average _ k hk near⟩⟩
  rw [StatsLogger.readTrace_fileAfter, Option.bind_some, log, columns]


omit [DecidableEq Addr] in
/-- The RTTs, from the list of those of the rows. -/
theorem rttAt_of_trace {h : History Addr} {a : Addr} {rtts : List Int32}
    (shown : (h.network.peers a).trace.map (·.rttStd) = rtts) (k : Nat) :
    h.rttAt a k = (rtts[k]?.map Int32.toInt).getD 0 := by
  subst shown
  rw [rttAt, List.getElem?_map, Option.map_map]
  rfl

theorem twoTrips_plotted :
    ∃ h, Reachability.follow (step fun _ => {}) (fun _ _ => True)
        (start Network.oneCaller (fun _ => 0) fun _ => 0) twoTrips = some h ∧
      h.driftAt 1 1 = -2850 ∧
      let calls := (h.network.peers 1).trace.map
        (StatsLogger.Call.mk StatsLogger.farCall.tmNow 0)
      HearsFrom (fun _ => 0) (fun _ => 0) h 1 0 ∧
        ∃ sample mean : Nat → ℚ,
          (StatsLogger.readTrace (StatsLogger.fileAfter false calls)).bind
              (PlotDriftModel.calculateDrift id PlotDriftModel.exactMean true true) =
            some ((List.range calls.length).map sample, (List.range calls.length).map mean) ∧
          ∀ k < calls.length,
            |sample k - h.driftAt 1 k| ≤ 7 / 2 ∧
            |mean k - movingAverage 8 (h.driftAt 1 0) (fun j => h.driftAt 1 (j + 1)) k| ≤
              7 / 2 + 8 * 0 := by
  obtain ⟨h, follows, result⟩ := Option.map_eq_some_iff.mp twoTrips_trace
  obtain ⟨shown, rest⟩ := Prod.mk.inj result
  have clocks (k : Nat) := clocks_of_heard (Prod.mk.inj rest).1 k
  have rtts : (h.network.peers 1).trace.map (·.rttStd) = [4000, 10300] := by
    have := congrArg (List.map fun row => row.2.2) shown
    rwa [List.map_map] at this
  have length : (h.network.peers 1).trace.length = 2 := by
    have := congrArg List.length rtts
    rwa [List.length_map] at this
  have drift₀ : h.driftAt 1 0 = 0 := by
    simp [driftAt, clockDrift]
  have drift₁ : h.driftAt 1 1 = -2850 := by
    have apart : h.distance 1 1 - h.distance 1 0 = 300000 := by
      rw [distance, distance, (clocks 0).1, (clocks 0).2, (clocks 1).1, (clocks 1).2]
      rfl
    have rtt : h.rttAt 1 1 - h.rttAt 1 0 = 6300 := by
      rw [rttAt_of_trace rtts, rttAt_of_trace rtts]
      rfl
    rw [driftAt, clockDrift, apart, rtt]
    norm_num
  have answered₀ : sinceStart (fun k => h.answeredAt 1 k - 0) 0 = 2000 := by
    rw [sinceStart, (clocks 0).1]
    rfl
  have answered₁ : sinceStart (fun k => h.answeredAt 1 k - 0) 1 = 12000 := by
    rw [sinceStart, (clocks 1).1]
    rfl
  refine ⟨h, follows, drift₁,
    @plotted_drift_is_clock_drift _ _ (fun _ => {}) Network.oneCaller (fun _ => 0) (fun _ => 0) h 1
      0 Network.oneCaller_pair (Reachability.reaches_of_follow follows) id (fun _ => Or.inl rfl)
      PlotDriftModel.exactMean (2 ^ 53) 0 (PlotDriftModel.exactMean_ewmMean _) le_rfl _ ?_ ?_ ?_ ?_⟩
  · rw [List.map_map]
    exact List.map_id _
  · intro none
    rw [List.map_eq_nil_iff.mp none] at length
    cases length
  · rw [List.length_map, length]
    apply Followable.pair
    · rw [answered₀, answered₁]
      decide
    · rw [answered₀, answered₁]
      decide
    · rw [answered₀]
      decide
  · rw [List.length_map, length]
    intro k hk
    rcases Nat.le_one_iff_eq_zero_or_eq_one.mp (Nat.lt_succ_iff.mp hk) with rfl | rfl
    · rw [drift₀]
      norm_num
    · rw [drift₁]
      norm_num

end DriftTracing.Protocol.History
