import Mathlib.Tactic.Common
import Mathlib.Tactic.Positivity

/-!
# Printing a time point

app/utils.hpp:49-96: `format_time_stdy` and what it calls. A time point is the 64-bit
count of nanoseconds since the epoch of the steady clock. The seconds are counted by a
cast that truncates toward zero and then kept in an unsigned variable.
-/
namespace DriftTracing.Source

def countSeconds (t : Int64) : Int64 := t / 1000000000

def secondsFrom (s : Int64) : Int64 := s * 1000000000

/-- `steady_clock::period::den / steady_clock::period::num`. -/
def ticksPerSec : Nat := 1000000000 / 1

/-- `pow10<val>()`, which has an instance for the powers of ten from 10 on only. -/
def pow10 (val : Nat) : Nat :=
  if val ≤ 10 then 1 else 1 + pow10 (val / 10)

def decimals : Nat := pow10 ticksPerSec

/-- `setfill('0') << setw(width)`, in front of the text of a number. -/
def setw (width : Nat) (number : List Char) : List Char := number.leftpad width '0'

/-- `out << count`, for a signed count. -/
def putCount : Int → List Char
  | .ofNat n => Nat.toDigits 10 n
  | .negSucc n => '-' :: Nat.toDigits 10 (n + 1)

namespace FormatTime

def totalSec (timestamp : Int64) : UInt64 := (countSeconds timestamp).toUInt64

def days (totalSec : UInt64) : UInt64 := totalSec / (60 * 60 * 24)

def hours (totalSec : UInt64) : UInt64 := totalSec / (60 * 60) - days totalSec * 24

def minutes (totalSec : UInt64) : UInt64 :=
  totalSec / 60 - days totalSec * 24 * 60 - hours totalSec * 60

def seconds (totalSec : UInt64) : UInt64 :=
  totalSec - days totalSec * 24 * 60 * 60 - hours totalSec * 60 * 60 - minutes totalSec * 60

/-- The count of `timestamp - seconds_from(total_sec)`. -/
def fraction (timestamp : Int64) : Int64 :=
  timestamp - secondsFrom (totalSec timestamp).toInt64

/-- `days` and the letter, which are left out on day zero. -/
def putDays (totalSec : UInt64) : List Char :=
  if days totalSec = 0 then [] else Nat.toDigits 10 (days totalSec).toNat ++ ['D', ' ']

/-- A colon or a dot follows each of the three fields. -/
def putClock (totalSec : UInt64) : List Char :=
  setw 2 (Nat.toDigits 10 (hours totalSec).toNat) ++
    ':' :: (setw 2 (Nat.toDigits 10 (minutes totalSec).toNat) ++
      ':' :: (setw 2 (Nat.toDigits 10 (seconds totalSec).toNat) ++ ['.']))

/-- The special string for 0. -/
def zeroText : List Char :=
  ['0', '0', ':', '0', '0', ':', '0', '0', '.', '0', '0', '0', '0', '0', '0']

end FormatTime

open FormatTime in
def formatTimeStdy (timestamp : Int64) : List Char :=
  if timestamp = 0 then zeroText
  else
    putDays (totalSec timestamp) ++ putClock (totalSec timestamp) ++
      setw decimals (putCount (fraction timestamp).toInt)

/-! ### The parts as numbers -/

theorem pow10_pow (n : Nat) : pow10 (10 ^ (n + 1)) = n + 1 := by
  induction n with
  | zero => simp [pow10]
  | succ n ih =>
    have large : ¬10 ^ (n + 2) ≤ 10 := by
      have : 0 < 10 ^ n := by positivity
      rw [Nat.pow_succ, Nat.pow_succ]
      omega
    rw [pow10, if_neg large, Nat.pow_succ, Nat.mul_div_cancel _ (by simp), ih]
    omega

/-- A nanosecond clock prints nine decimals. -/
theorem decimals_eq : decimals = 9 := pow10_pow 8

namespace FormatTime

variable (total : UInt64)

theorem toNat_sub_fits {a b : UInt64} (less : b.toNat ≤ a.toNat) :
    (a - b).toNat = a.toNat - b.toNat :=
  UInt64.toNat_sub_of_le a b (UInt64.le_iff_toNat_le.mpr less)

theorem days_toNat : (days total).toNat = total.toNat / 86400 := by
  simp [days]

theorem hours_toNat : (hours total).toNat = total.toNat / 3600 % 24 := by
  have := total.toNat_lt
  have whole : (total / (60 * 60)).toNat = total.toNat / 3600 := by simp
  have inDays : (days total * 24).toNat = total.toNat / 86400 * 24 := by
    simp only [UInt64.toNat_mul, days_toNat, UInt64.reduceToNat]
    omega
  rw [hours, toNat_sub_fits (by omega), whole, inDays]
  omega

theorem minutes_toNat : (minutes total).toNat = total.toNat / 60 % 60 := by
  have := total.toNat_lt
  have whole : (total / 60).toNat = total.toNat / 60 := by simp
  have inDays : (days total * 24 * 60).toNat = total.toNat / 86400 * 1440 := by
    simp only [UInt64.toNat_mul, days_toNat, UInt64.reduceToNat]
    omega
  have inHours : (hours total * 60).toNat = total.toNat / 3600 % 24 * 60 := by
    simp only [UInt64.toNat_mul, hours_toNat, UInt64.reduceToNat]
    omega
  have behindDays : (total / 60 - days total * 24 * 60).toNat =
      total.toNat / 60 - total.toNat / 86400 * 1440 := by
    rw [toNat_sub_fits (by omega), whole, inDays]
  rw [minutes, toNat_sub_fits (by omega), behindDays, inHours]
  omega

theorem seconds_toNat : (seconds total).toNat = total.toNat % 60 := by
  have := total.toNat_lt
  have inDays : (days total * 24 * 60 * 60).toNat = total.toNat / 86400 * 86400 := by
    simp only [UInt64.toNat_mul, days_toNat, UInt64.reduceToNat]
    omega
  have inHours : (hours total * 60 * 60).toNat = total.toNat / 3600 % 24 * 3600 := by
    simp only [UInt64.toNat_mul, hours_toNat, UInt64.reduceToNat]
    omega
  have inMinutes : (minutes total * 60).toNat = total.toNat / 60 % 60 * 60 := by
    simp only [UInt64.toNat_mul, minutes_toNat, UInt64.reduceToNat]
    omega
  have behindDays : (total - days total * 24 * 60 * 60).toNat =
      total.toNat - total.toNat / 86400 * 86400 := by
    rw [toNat_sub_fits (by omega), inDays]
  have behindHours :
      (total - days total * 24 * 60 * 60 - hours total * 60 * 60).toNat =
        total.toNat - total.toNat / 86400 * 86400 - total.toNat / 3600 % 24 * 3600 := by
    rw [toNat_sub_fits (by omega), behindDays, inHours]
  rw [seconds, toNat_sub_fits (by omega), behindHours, inMinutes]
  omega

/-- The fields add up to the seconds, whatever the unsigned variable holds. -/
theorem fields_sum :
    (((days total).toNat * 24 + (hours total).toNat) * 60 + (minutes total).toNat) * 60 +
      (seconds total).toNat = total.toNat := by
  rw [days_toNat, hours_toNat, minutes_toNat, seconds_toNat]
  omega

theorem countSeconds_toInt (t : Int64) :
    (countSeconds t).toInt = t.toInt.tdiv 1000000000 := by
  rw [countSeconds, Int64.toInt_div_of_ne_right t _ (by decide)]
  rfl

/-- The remainder has the sign of the time point. -/
theorem fraction_toInt (t : Int64) : (fraction t).toInt = t.toInt.tmod 1000000000 := by
  have low := t.le_toInt
  have high := t.toInt_lt
  have split := Int.tmod_add_tdiv_mul t.toInt 1000000000
  have toward : t.toInt.natAbs = (t.toInt.tmod 1000000000).natAbs +
      (t.toInt.tdiv 1000000000 * 1000000000).natAbs := by
    rw [Int.natAbs_mul, Int.natAbs_tmod, Int.natAbs_tdiv]
    exact (Nat.mod_add_div' _ _).symm
  have billion : Int64.toInt 1000000000 = 1000000000 := rfl
  rw [fraction, totalSec, Int64.toInt64_toUInt64, secondsFrom, Int64.toInt_sub, Int64.toInt_mul,
    countSeconds_toInt, billion]
  rw [Int.bmod_eq_of_le (n := t.toInt.tdiv 1000000000 * 1000000000) (by omega) (by omega)]
  rw [Int.bmod_eq_of_le (by omega) (by omega)]
  omega

/-- The seconds before the epoch are counted down from `2^64`. -/
theorem totalSec_toNat (t : Int64) :
    ((totalSec t).toNat : Int) = t.toInt.tdiv 1000000000 % 2 ^ 64 := by
  have small := (totalSec t).toNat_lt
  have wrapped : (countSeconds t).toInt =
      ((totalSec t).toNat : Int).bmod (2 ^ 64) :=
    BitVec.toInt_eq_toNat_bmod _
  have fold : ((totalSec t).toNat : Int).bmod (2 ^ 64) % (2 ^ 64 : Nat) =
      (totalSec t).toNat % (2 ^ 64 : Nat) := Int.bmod_emod
  rw [← countSeconds_toInt, wrapped]
  omega

end FormatTime
end DriftTracing.Source
