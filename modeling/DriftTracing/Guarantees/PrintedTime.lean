import DriftTracing.Lib.DecimalField
import DriftTracing.Lib.TextSearch
import DriftTracing.Source.FormatTime

/-!
# The printed time points

`decode` reads a text of the documented form back. Every time point from the clock epoch
on decodes to itself. None before it does: the seconds are counted down from `2^64`, and
the sign is printed inside the fraction or, on a whole second, not at all. Two time
points print alike nowhere.
-/
namespace DriftTracing.Source.FormatTime
open Lib Lib.DecimalField Lib.TextSearch

/-- Two digits below a bound. -/
def readField (bound : Nat) (s : List Char) : Option Nat := (read 2 s).filter (· < bound)

/-- The days, if there are any, and the rest of the text. -/
def readDays (s : List Char) : Option (Nat × List Char) :=
  match cut ['D', ' '] s with
  | some (days, rest) => (readNumber days).map (·, rest)
  | none => some (0, s)

/-- The seconds of `[d]D hh:mm:ss.`, and the text of the fraction. -/
def readSeconds (s : List Char) : Option (Nat × List Char) := do
  let (days, s) ← readDays s
  let (hh, s) ← cut [':'] s
  let (mm, s) ← cut [':'] s
  let (ss, fraction) ← cut ['.'] s
  let hours ← readField 24 hh
  let minutes ← readField 60 mm
  let seconds ← readField 60 ss
  return (((days * 24 + hours) * 60 + minutes) * 60 + seconds, fraction)

/-- The fraction has exactly the decimals of the clock. -/
def readTicks (s : List Char) : Option Nat := do
  let (seconds, fraction) ← readSeconds s
  (read decimals fraction).map fun ticks => seconds * ticksPerSec + ticks

/-- A sign may stand in front. -/
def decode (s : List Char) : Option Int :=
  if s = zeroText then some 0
  else if s.head? = some '-' then (readTicks s.tail).map fun ticks : Nat => -(ticks : Int)
  else (readTicks s).map fun ticks : Nat => (ticks : Int)

/-- The text decodes to the time point, and no other time point prints it. -/
def Faithful (t : Int64) : Prop :=
  decode (formatTimeStdy t) = some t.toInt ∧ ∀ t', formatTimeStdy t' = formatTimeStdy t → t' = t

/-! ### Reading the parts back -/

theorem setw_toDigits (width n : Nat) : setw width (Nat.toDigits 10 n) = write width n := rfl

theorem readField_write {bound n : Nat} (small : n < bound) (fits : bound ≤ 100) :
    readField bound (write 2 n) = some n := by
  rw [readField, read_write (by omega) (by simp)]
  simp [small]

variable (total : UInt64) {rest : List Char}

theorem readDays_putDays (free : 'D' ∉ rest) :
    readDays (putDays total ++ rest) = some ((days total).toNat, rest) := by
  rw [putDays]
  split
  · next zero =>
    have missing : find ['D', ' '] rest = none := find_eq_none free
    rw [List.nil_append, readDays, cut_eq_none missing, zero]
    rfl
  · have place : find ['D', ' '] (Nat.toDigits 10 (days total).toNat ++ (['D', ' '] ++ rest)) =
        some (Nat.toDigits 10 (days total).toNat).length := find_append (not_mem_toDigits rfl)
    rw [List.append_assoc, readDays, cut_of_find place]
    simp only [readNumber_toDigits]
    rfl

theorem not_mem_putClock {c : Char} (other : c.isDigit = false) (colon : c ≠ ':')
    (dot : c ≠ '.') : c ∉ putClock total := by
  simp [putClock, setw_toDigits, not_mem_write other, colon, dot]

/-- The seconds come back from any text that continues the clock. -/
theorem readSeconds_put (free : 'D' ∉ rest) :
    readSeconds (putDays total ++ putClock total ++ rest) =
      some (total.toNat, rest) := by
  have behind : 'D' ∉ putClock total ++ rest := by
    rw [List.mem_append, not_or]
    exact ⟨not_mem_putClock total rfl (by simp) (by simp), free⟩
  have hh : (hours total).toNat < 24 := by
    rw [hours_toNat]
    omega
  have mm : (minutes total).toNat < 60 := by
    rw [minutes_toNat]
    omega
  have ss : (seconds total).toNat < 60 := by
    rw [seconds_toNat]
    omega
  rw [List.append_assoc, readSeconds, readDays_putDays total behind]
  simp only [putClock, setw_toDigits, List.append_assoc, List.cons_append, List.nil_append,
    bind, Option.bind]
  rw [cut_separator (not_mem_write rfl)]
  simp only
  rw [cut_separator (not_mem_write rfl)]
  simp only
  rw [cut_separator (not_mem_write rfl)]
  simp only
  rw [readField_write hh (by simp), readField_write mm (by simp), readField_write ss (by simp)]
  simp only [fields_sum]
  rfl

/-- No sign stands in front of a printed time point. -/
theorem head_put : (putDays total ++ putClock total ++ rest).head? ≠ some '-' := by
  have free : '-' ∉ putDays total ++ putClock total := by
    rw [List.mem_append, not_or, putDays]
    refine ⟨?_, not_mem_putClock total rfl (by simp) (by simp)⟩
    have digits : '-' ∉ Nat.toDigits 10 (days total).toNat := not_mem_toDigits rfl
    split
    · simp
    · simp [digits]
  have nonempty : putDays total ++ putClock total ≠ [] := by simp [putClock]
  obtain ⟨c, cs, whole⟩ := List.exists_cons_of_ne_nil nonempty
  rw [whole] at free ⊢
  rw [List.cons_append, List.head?_cons]
  rintro ⟨⟩
  exact free List.mem_cons_self

/-! ### The fraction -/

theorem setw_negSucc (width n : Nat) : ∃ zeros,
    setw width (putCount (.negSucc n)) =
      List.replicate zeros '0' ++ '-' :: Nat.toDigits 10 (n + 1) :=
  ⟨_, rfl⟩

theorem minus_mem_setw (width n : Nat) : '-' ∈ setw width (putCount (.negSucc n)) := by
  obtain ⟨zeros, text⟩ := setw_negSucc width n
  simp [text]

theorem minus_not_mem_zeros (zeros : Nat) : '-' ∉ List.replicate zeros '0' := by
  simp [List.mem_replicate]

theorem not_mem_setw_putCount {c : Char} (other : c.isDigit = false) (noSign : c ≠ '-')
    (width : Nat) (count : Int) : c ∉ setw width (putCount count) := by
  cases count with
  | ofNat n => exact not_mem_write other
  | negSucc n =>
    obtain ⟨zeros, text⟩ := setw_negSucc width n
    have zero : c ≠ '0' := by
      rintro rfl
      exact Bool.noConfusion other
    simp [text, not_mem_toDigits other, noSign, zero]

theorem putCount_injective {width : Nat} {a b : Int}
    (same : setw width (putCount a) = setw width (putCount b)) : a = b := by
  have unsigned (n : Nat) : '-' ∉ setw width (putCount (.ofNat n)) := not_mem_write rfl
  cases a with
  | ofNat a =>
    cases b with
    | ofNat b => exact congrArg Int.ofNat (write_injective same)
    | negSucc b => exact absurd (same ▸ minus_mem_setw width b) (unsigned a)
  | negSucc a =>
    cases b with
    | ofNat b => exact absurd (same ▸ minus_mem_setw width a) (unsigned b)
    | negSucc b =>
      obtain ⟨zerosA, textA⟩ := setw_negSucc width a
      obtain ⟨zerosB, textB⟩ := setw_negSucc width b
      have behind := congrArg (cut ['-']) same
      rw [textA, textB, cut_separator (minus_not_mem_zeros _),
        cut_separator (minus_not_mem_zeros _), Option.some.injEq, Prod.mk.injEq] at behind
      rw [Nat.succ.inj (toDigits_injective behind.2)]

/-! ### Decoding a time point -/

theorem formatTimeStdy_eq {t : Int64} (set : t ≠ 0) : formatTimeStdy t =
    putDays (totalSec t) ++ putClock (totalSec t) ++
      setw decimals (putCount (fraction t).toInt) :=
  if_neg set

theorem readSeconds_format {t : Int64} (set : t ≠ 0) : readSeconds (formatTimeStdy t) =
    some ((totalSec t).toNat, setw decimals (putCount (fraction t).toInt)) := by
  rw [formatTimeStdy_eq set]
  exact readSeconds_put _ (not_mem_setw_putCount rfl (by simp) _ _)

theorem format_ne_zeroText {t : Int64} (set : t ≠ 0) : formatTimeStdy t ≠ zeroText := by
  intro same
  have parts := readSeconds_format set
  have zero : zeroText = putDays 0 ++ putClock 0 ++ List.replicate 6 '0' := by decide
  rw [same, zero, readSeconds_put 0 (by simp), Option.some.injEq,
    Prod.mk.injEq] at parts
  have width := congrArg List.length parts.2
  rw [setw, List.length_leftpad, decimals_eq, List.length_replicate] at width
  omega

/-- Two time points print alike nowhere, the ones before the epoch included. -/
theorem formatTimeStdy_injective {t t' : Int64} (same : formatTimeStdy t' = formatTimeStdy t) :
    t' = t := by
  by_cases zero : t = 0
  · subst zero
    by_contra set
    exact format_ne_zeroText set same
  · by_cases zero' : t' = 0
    · subst zero'
      exact absurd same.symm (format_ne_zeroText zero)
    · have parts := readSeconds_format zero'
      rw [same, readSeconds_format zero, Option.some.injEq, Prod.mk.injEq] at parts
      have total := UInt64.toNat_inj.mp parts.1
      have rest := Int64.toInt_inj.mp (putCount_injective parts.2)
      have rebuild (t : Int64) : t = fraction t + secondsFrom (totalSec t).toInt64 :=
        (Int64.sub_add_cancel t _).symm
      rw [rebuild t, rebuild t', total, rest]

theorem readTicks_format {t : Int64} (set : t ≠ 0) : readTicks (formatTimeStdy t) =
    (read decimals (setw decimals (putCount (fraction t).toInt))).map fun ticks =>
      (totalSec t).toNat * ticksPerSec + ticks := by
  rw [readTicks, readSeconds_format set]
  exact Option.bind_some ..

theorem decode_format {t : Int64} (set : t ≠ 0) : decode (formatTimeStdy t) =
    (readTicks (formatTimeStdy t)).map fun ticks : Nat => (ticks : Int) := by
  have unsigned : (formatTimeStdy t).head? ≠ some '-' := by
    rw [formatTimeStdy_eq set]
    exact head_put _
  rw [decode, if_neg (format_ne_zeroText set), if_neg unsigned]

theorem ticksPerSec_eq : ticksPerSec = 1000000000 := by
  simp [ticksPerSec]

/-- From the epoch on every time point is read back. -/
theorem decode_format_nonneg {t : Int64} (later : 0 ≤ t) :
    decode (formatTimeStdy t) = some t.toInt := by
  by_cases set : t = 0
  · subst set
    rfl
  · have nonneg : 0 ≤ t.toInt := Int64.le_iff_toInt_le.mp later
    have high := t.toInt_lt
    have seconds := totalSec_toNat t
    have ticks := fraction_toInt t
    rw [Int.tdiv_eq_ediv_of_nonneg nonneg] at seconds
    rw [Int.tmod_eq_emod_of_nonneg nonneg] at ticks
    obtain ⟨n, digits⟩ : ∃ n : Nat, (fraction t).toInt = n := Int.eq_ofNat_of_zero_le (by omega)
    have back : read decimals (setw decimals (putCount n)) = some n := by
      rw [decimals_eq]
      exact read_write (by omega) (by simp)
    rw [decode_format set, readTicks_format set, digits, back, Option.map_some, Option.map_some,
      Option.some.injEq, ticksPerSec_eq]
    omega

/-- What is read back before the epoch, if anything, is no time point. -/
theorem decode_format_neg {t : Int64} (before : t < 0) (t' : Int64) :
    decode (formatTimeStdy t) ≠ some t'.toInt := by
  have neg : t.toInt < 0 := Int64.lt_iff_toInt_lt.mp before
  have set : t ≠ 0 := by
    rintro rfl
    exact absurd neg (by simp)
  have low := t.le_toInt
  have seconds := totalSec_toNat t
  have ticks := fraction_toInt t
  rw [decode_format set, readTicks_format set]
  cases count : (fraction t).toInt with
  | negSucc n =>
    -- a sign in the fraction is no digit
    rw [read_eq_none rfl (minus_mem_setw decimals n)]
    simp
  | ofNat n =>
    -- whole seconds, counted down from 2^64
    have bound := t'.toInt_lt
    have split := Int.tmod_add_tdiv_mul t.toInt 1000000000
    have sign : (-t.toInt).tmod 1000000000 = -t.toInt.tmod 1000000000 := Int.neg_tmod ..
    have nonneg := Int.tmod_nonneg 1000000000 (show 0 ≤ -t.toInt by omega)
    have remainder : (n : Int) = t.toInt.tmod 1000000000 := count.symm.trans ticks
    have zero : n = 0 := by omega
    subst zero
    have back : read decimals (setw decimals (putCount (.ofNat 0))) = some 0 := by
      rw [decimals_eq]
      exact read_write (by simp) (by simp)
    rw [back, Option.map_some, Option.map_some, ne_eq, Option.some.injEq, ticksPerSec_eq]
    omega

/-- The printed time is faithful exactly from the clock epoch on. -/
theorem faithful_iff (t : Int64) : Faithful t ↔ 0 ≤ t := by
  refine ⟨fun faithful => ?_, fun later =>
    ⟨decode_format_nonneg later, fun t' => formatTimeStdy_injective⟩⟩
  by_contra before
  exact decode_format_neg (Int64.not_le.mp before) t faithful.1

/-- One second before the epoch: 584 billion years, and no sign. -/
theorem second_before_epoch_unfaithful :
    formatTimeStdy (-1000000000) =
        ['2', '1', '3', '5', '0', '3', '9', '8', '2', '3', '3', '4', '6', '0', '1', 'D', ' ',
          '0', '7', ':', '0', '0', ':', '1', '5', '.',
          '0', '0', '0', '0', '0', '0', '0', '0', '0'] ∧
      ¬Faithful (-1000000000) := by
  refine ⟨?_, fun faithful => decode_format_neg (by decide) _ faithful.1⟩
  rw [formatTimeStdy_eq (by decide), decimals_eq]
  decide

end DriftTracing.Source.FormatTime
