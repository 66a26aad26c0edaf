import DriftTracing.Lib.Runs
import DriftTracing.Source.Start
import Mathlib.Algebra.BigOperators.Intervals
import Mathlib.Data.Rat.Defs

/-!
# The trace file and the scripts that plot it

app/stats_logger.hpp:27-63, scripts/plot-drift.py:19-20 and
scripts/plot-drift-model.py:12-54. A row of the file has the columns of its header;
the texts of the time point and of the time base are left out, no script reads them.
All columns hold integers, which a data frame keeps exact below 2^53.
-/
namespace DriftTracing.Source

structure LogRow where
  usElapsedStd : Int
  usElapsedSys : Int
  usAckAckTimestampStd : Int
  usAckAckTimestampSys : Int
  usRTTSys : Int
  usRTTStd : Int
  usSmoothedRTTStd : Int
  rttVarStd : Int
  usDriftSampleStd : Int
  usDriftStd : Int
  usOverdriftStd : Int
  deriving DecidableEq, Repr

/-- What `trace` prints of its arguments, in the mode that is not compact. -/
def TraceRow.log (r : TraceRow) : LogRow where
  usElapsedStd := countMicroseconds r.elapsedStd
  usElapsedSys := countMicroseconds r.elapsedSys
  usAckAckTimestampStd := r.ackackTimestampStd.toNat
  usAckAckTimestampSys := r.ackackTimestampSys.toNat
  usRTTSys := r.rttSys.toInt
  usRTTStd := r.rttStd.toInt
  usSmoothedRTTStd := r.rttStdRma.toInt
  rttVarStd := r.rttStdVar.toInt
  usDriftSampleStd := r.driftSampleStd
  usDriftStd := r.drift
  usOverdriftStd := r.overdrift

namespace PlotDrift

/-- The cumulative sum of a column, on top of `sum`: each row is included in its own. -/
def cumsum (sum : Int) : List Int → List Int
  | [] => []
  | x :: xs => (sum + x) :: cumsum (sum + x) xs

def usDriftSampleStdActual (df : List LogRow) : List Int :=
  List.zipWith (· + ·) (df.map LogRow.usDriftSampleStd) (cumsum 0 (df.map LogRow.usOverdriftStd))

def usDriftStdActual (df : List LogRow) : List Int :=
  List.zipWith (· + ·) (df.map LogRow.usDriftStd) (cumsum 0 (df.map LogRow.usOverdriftStd))

theorem cumsum_append (sum : Int) (column : List Int) (x : Int) :
    cumsum sum (column ++ [x]) = cumsum sum column ++ [sum + column.sum + x] := by
  induction column generalizing sum with
  | nil => simp [cumsum]
  | cons y ys ih => simp [cumsum, ih, Int.add_assoc]

/-- The cumulative sums of a column given row by row. -/
theorem cumsum_range (column : Nat → Int) (n : Nat) :
    cumsum 0 ((List.range n).map column) =
      (List.range n).map fun k => ∑ j ∈ Finset.range (k + 1), column j := by
  have sum (n : Nat) : ((List.range n).map column).sum = ∑ j ∈ Finset.range n, column j := by
    induction n with
    | zero => rfl
    | succ n ih => simp [List.range_succ, Finset.sum_range_succ, ih]
  induction n with
  | zero => rfl
  | succ n ih => simp [List.range_succ, cumsum_append, ih, sum, Finset.sum_range_succ]

/-- A column with the overdrifts up to each row, for rows given one by one. -/
theorem zipWith_cumsum_range (column : LogRow → Int) (log : Nat → LogRow) (n : Nat) :
    List.zipWith (· + ·) (((List.range n).map log).map column)
        (cumsum 0 (((List.range n).map log).map LogRow.usOverdriftStd)) =
      (List.range n).map fun k =>
        column (log k) + ∑ j ∈ Finset.range (k + 1), (log j).usOverdriftStd := by
  rw [List.map_map, List.map_map, cumsum_range, List.zipWith_map, List.zipWith_self]
  rfl

theorem usDriftSampleStdActual_range (log : Nat → LogRow) (n : Nat) :
    usDriftSampleStdActual ((List.range n).map log) =
      (List.range n).map fun k => (log k).usDriftSampleStd +
        ∑ j ∈ Finset.range (k + 1), (log j).usOverdriftStd :=
  zipWith_cumsum_range LogRow.usDriftSampleStd log n

theorem usDriftStdActual_range (log : Nat → LogRow) (n : Nat) :
    usDriftStdActual ((List.range n).map log) =
      (List.range n).map fun k => (log k).usDriftStd +
        ∑ j ∈ Finset.range (k + 1), (log j).usOverdriftStd :=
  zipWith_cumsum_range LogRow.usDriftStd log n

end PlotDrift

/-- `drift_tracer` of plot-drift-model.py. -/
structure PlotDriftModel where
  tsbpdBase : Int
  rttBase : Int
  tsbpdWrapCheck : Bool
  deriving DecidableEq, Repr

namespace PlotDriftModel

/-- `__init__`, with the first row of the data frame. -/
def init (df : LogRow) (isLocalClockStd isRemoteClockStd : Bool) : PlotDriftModel :=
  let usElapsed := if isLocalClockStd then df.usElapsedStd else df.usElapsedSys
  let usAckackTimestamp :=
    if isRemoteClockStd then df.usAckAckTimestampStd else df.usAckAckTimestampSys
  { tsbpdBase := usElapsed - usAckackTimestamp
    rttBase := if isLocalClockStd then df.usRTTStd else df.usRTTSys
    tsbpdWrapCheck := false }

def TSBPD_WRAP_PERIOD : Int := 30 * 1000000

def MAX_TIMESTAMP : Int := 0xFFFFFFFF

def getTimeBase (t : PlotDriftModel) (timestampUs : Int) : Int × PlotDriftModel :=
  let (carryover, t) :=
    if t.tsbpdWrapCheck then
      if timestampUs < TSBPD_WRAP_PERIOD then (MAX_TIMESTAMP + 1, t)
      else if timestampUs ≥ TSBPD_WRAP_PERIOD ∧ timestampUs ≤ TSBPD_WRAP_PERIOD * 2 then
        (0, { t with
          tsbpdWrapCheck := false
          tsbpdBase := t.tsbpdBase + (MAX_TIMESTAMP + 1) })
      else (0, t)
    else if timestampUs > MAX_TIMESTAMP - TSBPD_WRAP_PERIOD then
      (0, { t with tsbpdWrapCheck := true })
    else (0, t)
  (t.tsbpdBase + carryover, t)

/-- The body of the loop of `calculate_drift`. -/
def driftSample (isLocalClockStd isRemoteClockStd : Bool) (t : PlotDriftModel) (row : LogRow) :
    ℚ × PlotDriftModel :=
  let usElapsed := if isLocalClockStd then row.usElapsedStd else row.usElapsedSys
  let usAckAckTimestamp :=
    if isRemoteClockStd then row.usAckAckTimestampStd else row.usAckAckTimestampSys
  let usRTT := if isLocalClockStd then row.usRTTStd else row.usRTTSys
  let rttCorrection : ℚ := (usRTT - t.rttBase : Int) / 2
  let (timeBase, t) := t.getTimeBase usAckAckTimestamp
  ((usElapsed - (timeBase + usAckAckTimestamp) : Int) - rttCorrection, t)

/-- The columns `usDriftSample` and `usDriftRMA` of `calculate_drift`, by a tracer made of
the first row; without one `iloc[0]` fails. `setAt` is what the column, of integers at
first, keeps of an assigned value, and `ewmMean com` is `ewm(com=com, adjust=False).mean()`. -/
def calculateDrift (setAt : ℚ → ℚ) (ewmMean : ℚ → List ℚ → List ℚ)
    (isLocalClockStd isRemoteClockStd : Bool) : List LogRow → Option (List ℚ × List ℚ)
  | [] => none
  | first :: rows =>
    let t := init first isLocalClockStd isRemoteClockStd
    let step := driftSample isLocalClockStd isRemoteClockStd
    let usDriftSample := (Lib.Runs.run step t (first :: rows)).1.map setAt
    some (usDriftSample, ewmMean 7 usDriftSample)

end PlotDriftModel

end DriftTracing.Source
