import DriftTracing.Source.FormatTime
import DriftTracing.Source.PlotScripts

/-!
# The trace file

app/stats_logger.hpp and `print_timestamp` of app/utils.hpp. The file is the text that
was streamed into it. `put_time` is given by its two texts: its formats `%FT%T.` and
`%z` print digits, the letter T, signs, colons and a dot.
-/
namespace DriftTracing.Source

/-- The local time as `put_time` prints it. -/
structure LocalTime where
  dateTime : List Char
  zone : List Char
  plain : ∀ c ∈ dateTime ++ zone, c.isDigit ∨ c ∈ ['T', '+', '-', ':', '.']

/-- `print_timestamp`, at a reading of the system clock. -/
def printTimestamp (tmNow : LocalTime) (systimeNow : Int) : List Char :=
  let s := systimeNow.tdiv 1000000000
  tmNow.dateTime ++ setw 6 (putCount (countMicroseconds (systimeNow - s * 1000000000))) ++
    tmNow.zone

structure StatsLogger where
  compactMode : Bool
  fout : List Char
  deriving DecidableEq, Repr

namespace StatsLogger

def printHeader (l : StatsLogger) : StatsLogger :=
  { l with
    fout := l.fout ++
      "TimepointSys,usElapsedStd,usElapsedSys,usAckAckTimestampStd,usAckAckTimestampSys,".toList ++
      "usRTTSys,usRTTStd,usSmoothedRTTStd,RTTVarStd".toList ++
      (if l.compactMode then []
        else ",usDriftSampleStd,usDriftStd,usOverdriftStd,TsbpdTimeBaseStd".toList) ++
      "\n".toList }

/-- The constructor; `opened` tells whether the file could be opened. -/
def create (filename : String) (opened compactMode : Bool) : Except String StatsLogger :=
  if opened then .ok (printHeader ⟨compactMode, []⟩)
  else .error ("Failed to open " ++ filename ++ "!!!")

/-- The arguments of a call, and the time it is made. -/
structure Call where
  tmNow : LocalTime
  systimeNow : Int
  row : TraceRow

def trace (l : StatsLogger) (c : Call) : StatsLogger :=
  { l with
    fout := l.fout ++ printTimestamp c.tmNow c.systimeNow ++ ",".toList ++
      putCount (countMicroseconds c.row.elapsedStd) ++ ",".toList ++
      putCount (countMicroseconds c.row.elapsedSys) ++ ",".toList ++
      putCount c.row.ackackTimestampStd.toNat ++ ",".toList ++
      putCount c.row.ackackTimestampSys.toNat ++ ",".toList ++
      putCount c.row.rttSys.toInt ++ ",".toList ++
      putCount c.row.rttStd.toInt ++ ",".toList ++
      putCount c.row.rttStdRma.toInt ++ ",".toList ++
      putCount c.row.rttStdVar.toInt ++
      (if l.compactMode then []
        else
          ",".toList ++ putCount c.row.driftSampleStd ++ ",".toList ++
            putCount c.row.drift ++ ",".toList ++
            putCount c.row.overdrift ++ ",".toList ++
            formatTimeStdy (Int64.ofInt c.row.tsbpdBase)) ++
      "\n".toList }

end StatsLogger

end DriftTracing.Source
