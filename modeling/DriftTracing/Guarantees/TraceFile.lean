import DriftTracing.Guarantees.PrintedTime
import DriftTracing.Lib.Table
import DriftTracing.Source.StatsLogger

/-!
# Reading the trace file back

The file is a table with one record for each call and a header of as many columns. What
the text says is given by a decoder of its own, which cuts it at the commas and the line
ends and finds the columns by their names: it gets back what was traced.
-/
namespace DriftTracing.Source.StatsLogger
open DriftTracing.Lib DriftTracing.Lib.DecimalField

/-- The names in the header. -/
def columns (compactMode : Bool) : List (List Char) :=
  ["TimepointSys", "usElapsedStd", "usElapsedSys", "usAckAckTimestampStd", "usAckAckTimestampSys",
    "usRTTSys", "usRTTStd", "usSmoothedRTTStd", "RTTVarStd"].map String.toList ++
  if compactMode then []
  else ["usDriftSampleStd", "usDriftStd", "usOverdriftStd", "TsbpdTimeBaseStd"].map String.toList

/-- What a call prints. -/
def Call.fields (c : Call) (compactMode : Bool) : List (List Char) :=
  [printTimestamp c.tmNow c.systimeNow, putCount (countMicroseconds c.row.elapsedStd),
    putCount (countMicroseconds c.row.elapsedSys), putCount c.row.ackackTimestampStd.toNat,
    putCount c.row.ackackTimestampSys.toNat, putCount c.row.rttSys.toInt,
    putCount c.row.rttStd.toInt, putCount c.row.rttStdRma.toInt, putCount c.row.rttStdVar.toInt] ++
  if compactMode then []
  else
    [putCount c.row.driftSampleStd, putCount c.row.drift, putCount c.row.overdrift,
      formatTimeStdy (Int64.ofInt c.row.tsbpdBase)]

/-- The file after some calls. -/
def fileAfter (compactMode : Bool) (calls : List Call) : List Char :=
  (calls.foldl trace (printHeader ⟨compactMode, []⟩)).fout

/-! ### The text as a table -/

theorem printHeader_fout (compactMode : Bool) :
    (printHeader ⟨compactMode, []⟩).fout = Table.writeRecord ',' '\n' (columns compactMode) := by
  cases compactMode with
  | false => decide +kernel
  | true => decide +kernel

@[simp] theorem trace_compactMode (l : StatsLogger) (c : Call) :
    (l.trace c).compactMode = l.compactMode := by
  unfold trace
  rfl

theorem trace_fout (l : StatsLogger) (c : Call) :
    (l.trace c).fout = l.fout ++ Table.writeRecord ',' '\n' (c.fields l.compactMode) := by
  cases mode : l.compactMode with
  | false => simp [trace, mode, Table.writeRecord, Call.fields]
  | true => simp [trace, mode, Table.writeRecord, Call.fields]

theorem foldl_trace (l : StatsLogger) (calls : List Call) :
    (calls.foldl trace l).fout =
      l.fout ++ Table.write ',' '\n' (calls.map (Call.fields · l.compactMode)) := by
  induction calls generalizing l with
  | nil => simp [Table.write]
  | cons c rest ih =>
    rw [List.foldl_cons, ih, trace_fout, trace_compactMode, List.append_assoc]
    rfl

/-- The header and the records of the file. -/
theorem fileAfter_eq (compactMode : Bool) (calls : List Call) :
    fileAfter compactMode calls =
      Table.write ',' '\n' (columns compactMode :: calls.map (Call.fields · compactMode)) := by
  rw [fileAfter, foldl_trace, printHeader_fout]
  rfl

/-! ### No field contains a separator -/

variable {c : Char}

theorem not_mem_putCount (other : c.isDigit = false) (noSign : c ≠ '-') (count : Int) :
    c ∉ putCount count := by
  cases count with
  | ofNat n => exact not_mem_toDigits other
  | negSucc n => simp [putCount, noSign, not_mem_toDigits other]

theorem not_mem_printTimestamp (other : c.isDigit = false) (plain : c ∉ ['T', '+', '-', ':', '.'])
    (tmNow : LocalTime) (systimeNow : Int) : c ∉ printTimestamp tmNow systimeNow := by
  have texts : c ∉ tmNow.dateTime ++ tmNow.zone := by
    intro member
    rcases tmNow.plain c member with digit | sign
    · rw [other] at digit
      cases digit
    · exact plain sign
  have noSign : c ≠ '-' := by
    rintro rfl
    simp at plain
  rw [List.mem_append, not_or] at texts
  simp [printTimestamp, texts, FormatTime.not_mem_setw_putCount other noSign]

theorem not_mem_formatTimeStdy (other : c.isDigit = false)
    (plain : c ∉ ['D', ' ', ':', '.', '-']) (t : Int64) : c ∉ formatTimeStdy t := by
  have signs : c ≠ 'D' ∧ c ≠ ' ' ∧ c ≠ ':' ∧ c ≠ '.' ∧ c ≠ '-' := by simpa using plain
  obtain ⟨letter, blank, colon, dot, noSign⟩ := signs
  have zero : c ≠ '0' := by
    rintro rfl
    simp at other
  by_cases unset : t = 0
  · simp [formatTimeStdy, unset, FormatTime.zeroText, zero, colon, dot]
  · have days : c ∉ FormatTime.putDays (FormatTime.totalSec t) := by
      unfold FormatTime.putDays
      split
      · simp
      · simp [not_mem_toDigits other, letter, blank]
    rw [FormatTime.formatTimeStdy_eq unset]
    simp [days, FormatTime.not_mem_putClock _ other colon dot,
      FormatTime.not_mem_setw_putCount other noSign]

theorem not_mem_fields (call : Call) (compactMode : Bool) (other : c.isDigit = false)
    (plain : c ∉ ['T', '+', '-', ':', '.', 'D', ' ']) :
    ∀ field ∈ call.fields compactMode, c ∉ field := by
  have signs : c ≠ 'T' ∧ c ≠ '+' ∧ c ≠ '-' ∧ c ≠ ':' ∧ c ≠ '.' ∧ c ≠ 'D' ∧ c ≠ ' ' := by
    simpa using plain
  obtain ⟨time, plus, noSign, colon, dot, letter, blank⟩ := signs
  have count := not_mem_putCount other noSign
  have timestamp := not_mem_printTimestamp other (by simp [time, plus, noSign, colon, dot])
    call.tmNow call.systimeNow
  have base := not_mem_formatTimeStdy other (by simp [letter, blank, colon, dot, noSign])
    (Int64.ofInt call.row.tsbpdBase)
  cases compactMode with
  | false => simp [Call.fields, count, timestamp, base]
  | true => simp [Call.fields, count, timestamp]

theorem plain_fields (call : Call) (compactMode : Bool) :
    Table.Plain ',' '\n' (call.fields compactMode) where
  nonempty := by simp [Call.fields]
  separator := not_mem_fields call compactMode rfl (by simp)
  lineBreak := not_mem_fields call compactMode rfl (by simp)

theorem plain_columns (compactMode : Bool) : Table.Plain ',' '\n' (columns compactMode) where
  nonempty := by simp [columns]
  separator := by
    cases compactMode with
    | false => decide +kernel
    | true => decide +kernel
  lineBreak := by
    cases compactMode with
    | false => decide +kernel
    | true => decide +kernel

/-! ### Reading -/

/-- The table a text is: the first line has the names of the columns. -/
def readCsv (text : List Char) : Option (List (List Char) × List (List (List Char))) :=
  match Table.read ',' '\n' text with
  | header :: records => some (header, records)
  | [] => none

theorem readCsv_fileAfter (compactMode : Bool) (calls : List Call) :
    readCsv (fileAfter compactMode calls) =
      some (columns compactMode, calls.map (Call.fields · compactMode)) := by
  have plain : ∀ record ∈ columns compactMode :: calls.map (Call.fields · compactMode),
      Table.Plain ',' '\n' record := by
    intro record member
    rcases List.mem_cons.mp member with rfl | member
    · exact plain_columns compactMode
    · obtain ⟨call, -, rfl⟩ := List.mem_map.mp member
      exact plain_fields call compactMode
  rw [readCsv, fileAfter_eq, Table.read_write plain (by simp)]

/-- The field under a name, in one record; there may be no such column. -/
def column (header record : List (List Char)) (name : String) : Option (List Char) :=
  (header.zip record).lookup name.toList

def intColumn (header record : List (List Char)) (name : String) : Option Int :=
  (column header record name).bind readInteger

/-- The integers of a record, by the names of their columns. -/
def readLog (header record : List (List Char)) : Option LogRow := do
  let usElapsedStd ← intColumn header record "usElapsedStd"
  let usElapsedSys ← intColumn header record "usElapsedSys"
  let usAckAckTimestampStd ← intColumn header record "usAckAckTimestampStd"
  let usAckAckTimestampSys ← intColumn header record "usAckAckTimestampSys"
  let usRTTSys ← intColumn header record "usRTTSys"
  let usRTTStd ← intColumn header record "usRTTStd"
  let usSmoothedRTTStd ← intColumn header record "usSmoothedRTTStd"
  let rttVarStd ← intColumn header record "RTTVarStd"
  let usDriftSampleStd ← intColumn header record "usDriftSampleStd"
  let usDriftStd ← intColumn header record "usDriftStd"
  let usOverdriftStd ← intColumn header record "usOverdriftStd"
  return { usElapsedStd, usElapsedSys, usAckAckTimestampStd, usAckAckTimestampSys, usRTTSys,
           usRTTStd, usSmoothedRTTStd, rttVarStd, usDriftSampleStd, usDriftStd, usOverdriftStd }

/-- The rows a text decodes to. -/
def readTrace (text : List Char) : Option (List LogRow) :=
  (readCsv text).bind fun (header, records) => records.mapM (readLog header)

theorem readInteger_putCount (count : Int) : readInteger (putCount count) = some count := by
  cases count with
  | ofNat n => exact readInteger_toDigits
  | negSucc n => exact readInteger_neg

theorem readLog_fields (c : Call) : readLog (columns false) (c.fields false) = some c.row.log := by
  have int {name : String} {count : Int}
      (found : column (columns false) (c.fields false) name = some (putCount count)) :
      intColumn (columns false) (c.fields false) name = some count := by
    rw [intColumn, found, Option.bind_some, readInteger_putCount]
  rw [readLog, @int "usElapsedStd" _ rfl, @int "usElapsedSys" _ rfl,
    @int "usAckAckTimestampStd" _ rfl, @int "usAckAckTimestampSys" _ rfl, @int "usRTTSys" _ rfl,
    @int "usRTTStd" _ rfl, @int "usSmoothedRTTStd" _ rfl, @int "RTTVarStd" _ rfl,
    @int "usDriftSampleStd" _ rfl, @int "usDriftStd" _ rfl, @int "usOverdriftStd" _ rfl]
  rfl

/-- The time base of a record, decoded. -/
def timeBaseColumn (header record : List (List Char)) : Option Int :=
  (column header record "TsbpdTimeBaseStd").bind FormatTime.decode

def readTimeBases (text : List Char) : Option (List Int) :=
  (readCsv text).bind fun (header, records) => records.mapM (timeBaseColumn header)

theorem mapM_fields {β : Type} {compactMode : Bool} {read : List (List Char) → Option β}
    {value : Call → β} (calls : List Call)
    (reads : ∀ c ∈ calls, read (c.fields compactMode) = some (value c)) :
    (calls.map (Call.fields · compactMode)).mapM read = some (calls.map value) := by
  induction calls with
  | nil => rfl
  | cons c rest ih =>
    have first := reads c List.mem_cons_self
    have later := ih fun d hd => reads d (List.mem_cons_of_mem _ hd)
    simp [List.mapM_cons, first, later]

theorem timeBaseColumn_fields {c : Call} (later : 0 ≤ c.row.tsbpdBase)
    (fits : c.row.tsbpdBase < 2 ^ 63) :
    timeBaseColumn (columns false) (c.fields false) = some c.row.tsbpdBase := by
  have base : (Int64.ofInt c.row.tsbpdBase).toInt = c.row.tsbpdBase :=
    Int64.toInt_ofInt_of_le (by omega) fits
  have found : column (columns false) (c.fields false) "TsbpdTimeBaseStd" =
      some (formatTimeStdy (Int64.ofInt c.row.tsbpdBase)) := rfl
  have nonneg : 0 ≤ Int64.ofInt c.row.tsbpdBase := by
    rw [Int64.le_iff_toInt_le, base]
    exact later
  rw [timeBaseColumn, found, Option.bind_some, FormatTime.decode_format_nonneg nonneg, base]

/-- The full file decodes to what was traced. -/
theorem readTrace_fileAfter (calls : List Call) :
    readTrace (fileAfter false calls) = some (calls.map (·.row.log)) := by
  rw [readTrace, readCsv_fileAfter, Option.bind_some]
  exact mapM_fields calls fun c _ => readLog_fields c

/-- Whatever is traced, in full or compact mode: every line of the file has as many fields
as the header has names. The full file decodes to exactly the values that were traced, and
time bases from the clock epoch on decode to themselves. -/
theorem trace_file_round_trip (calls : List Call) :
    (∀ compactMode, ∃ header records,
      readCsv (fileAfter compactMode calls) = some (header, records) ∧
        records.length = calls.length ∧ ∀ record ∈ records, record.length = header.length) ∧
    readTrace (fileAfter false calls) = some (calls.map (·.row.log)) ∧
    ((∀ c ∈ calls, 0 ≤ c.row.tsbpdBase ∧ c.row.tsbpdBase < 2 ^ 63) →
      readTimeBases (fileAfter false calls) = some (calls.map (·.row.tsbpdBase))) := by
  refine ⟨fun compactMode => ⟨_, _, readCsv_fileAfter compactMode calls, List.length_map _, ?_⟩,
    readTrace_fileAfter calls, fun inRange => ?_⟩
  · intro record member
    obtain ⟨c, -, rfl⟩ := List.mem_map.mp member
    cases compactMode with
    | false => rfl
    | true => rfl
  · rw [readTimeBases, readCsv_fileAfter, Option.bind_some]
    exact mapM_fields calls fun c hc => timeBaseColumn_fields (inRange c hc).1 (inRange c hc).2

/-- A row with negative values, traced two days after the epoch of the clock. -/
def farCall : Call where
  tmNow := ⟨"2021-03-04T05:06:07.".toList, "+0100".toList, by simp⟩
  systimeNow := 1614830767000008000
  row :=
    { elapsedStd := 5000000
      elapsedSys := -7000
      ackackTimestampStd := 4294967295
      ackackTimestampSys := 12
      rttSys := -1
      rttStd := -1
      rttStdRma := 20000
      rttStdVar := 300
      driftSampleStd := -42
      drift := 17
      overdrift := -5000
      tsbpdBase := 172800000000009 }

theorem trace_file_round_trip_far :
    (∀ compactMode, ∃ header records,
      readCsv (fileAfter compactMode [farCall]) = some (header, records) ∧
        records.length = [farCall].length ∧ ∀ record ∈ records, record.length = header.length) ∧
    readTrace (fileAfter false [farCall]) = some ([farCall].map (·.row.log)) ∧
    readTimeBases (fileAfter false [farCall]) = some ([farCall].map (·.row.tsbpdBase)) := by
  obtain ⟨widths, log, bases⟩ := trace_file_round_trip [farCall]
  have inRange : ∀ c ∈ [farCall], 0 ≤ c.row.tsbpdBase ∧ c.row.tsbpdBase < 2 ^ 63 := by
    intro c member
    obtain rfl := List.mem_singleton.mp member
    exact ⟨by decide, by decide⟩
  exact ⟨widths, log, bases inRange⟩

end DriftTracing.Source.StatsLogger
