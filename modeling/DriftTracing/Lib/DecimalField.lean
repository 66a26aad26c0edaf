import Mathlib.Algebra.Order.Ring.Int
import Mathlib.Data.List.Basic

/-!
# Decimal fields

A number written with zeros in front up to a width, and a field that is read only if it
has exactly that width and nothing but digits. A number that fits its width is read back.
`readNumber` takes a number as wide as it is, and `readInteger` one with a sign.
-/
namespace DriftTracing.Lib.DecimalField

def write (width n : Nat) : List Char := (Nat.toDigits 10 n).leftpad width '0'

def read (width : Nat) (s : List Char) : Option Nat :=
  if s.length = width ∧ s.all Char.isDigit then some (Nat.ofDigitChars 10 s 0) else none

def readNumber (s : List Char) : Option Nat := if s = [] then none else read s.length s

def readInteger : List Char → Option Int
  | '-' :: s => (readNumber s).map fun n : Nat => -(n : Int)
  | s => (readNumber s).map fun n : Nat => (n : Int)

variable {width n : Nat} {s : List Char} {c : Char}

theorem isDigit_of_mem_toDigits (member : c ∈ Nat.toDigits 10 n) : c.isDigit :=
  Nat.isDigit_of_mem_toDigits (by simp) (by simp) member

theorem isDigit_of_mem_write (member : c ∈ write width n) : c.isDigit := by
  rw [write, List.leftpad, List.mem_append] at member
  rcases member with zero | digit
  · rw [(List.mem_replicate.mp zero).2]
    rfl
  · exact isDigit_of_mem_toDigits digit

theorem length_write (fits : n < 10 ^ width) (positive : 0 < width) :
    (write width n).length = width := by
  have digits := (Nat.length_toDigits_le_iff (b := 10) (n := n) (by simp) positive).mpr fits
  rw [write, List.length_leftpad]
  exact Nat.max_eq_left digits

/-- The zeros in front do not count. -/
theorem ofDigitChars_write : Nat.ofDigitChars 10 (write width n) 0 = n := by
  rw [write, List.leftpad, Nat.ofDigitChars_append, Nat.ofDigitChars_replicate_zero,
    Nat.mul_zero, Nat.ofDigitChars_ten_toDigits]

theorem read_write (fits : n < 10 ^ width) (positive : 0 < width) :
    read width (write width n) = some n := by
  have digits : (write width n).all Char.isDigit :=
    List.all_eq_true.mpr fun _ => isDigit_of_mem_write
  rw [read, if_pos ⟨length_write fits positive, digits⟩, ofDigitChars_write]

theorem readNumber_toDigits : readNumber (Nat.toDigits 10 n) = some n := by
  have digits : (Nat.toDigits 10 n).all Char.isDigit :=
    List.all_eq_true.mpr fun _ => isDigit_of_mem_toDigits
  rw [readNumber, if_neg Nat.toDigits_ne_nil, read, if_pos ⟨rfl, digits⟩,
    Nat.ofDigitChars_ten_toDigits]

theorem readInteger_toDigits : readInteger (Nat.toDigits 10 n) = some (n : Int) := by
  have number := @readNumber_toDigits n
  cases digits : Nat.toDigits 10 n with
  | nil => exact absurd digits Nat.toDigits_ne_nil
  | cons d ds =>
    rw [digits] at number
    have digit : d.isDigit := isDigit_of_mem_toDigits (digits ▸ List.mem_cons_self)
    rw [readInteger, number]
    · rfl
    · intro rest signed
      obtain ⟨rfl, -⟩ := List.cons.inj signed
      simp at digit

theorem readInteger_neg : readInteger ('-' :: Nat.toDigits 10 n) = some (-(n : Int)) := by
  simp [readInteger, readNumber_toDigits]

theorem write_injective {m : Nat} (same : write width m = write width n) : m = n := by
  have value := congrArg (Nat.ofDigitChars 10 · 0) same
  rwa [ofDigitChars_write, ofDigitChars_write] at value

theorem toDigits_injective {m : Nat} (same : Nat.toDigits 10 m = Nat.toDigits 10 n) : m = n := by
  have value := congrArg (Nat.ofDigitChars 10 · 0) same
  rwa [Nat.ofDigitChars_ten_toDigits, Nat.ofDigitChars_ten_toDigits] at value

/-! A separator or a sign is no digit. -/

variable (other : c.isDigit = false)
include other

theorem not_mem_of_digits (digits : ∀ d ∈ s, d.isDigit) : c ∉ s := by
  intro member
  rw [digits c member] at other
  exact Bool.noConfusion other

theorem not_mem_toDigits : c ∉ Nat.toDigits 10 n :=
  not_mem_of_digits other fun _ => isDigit_of_mem_toDigits

theorem not_mem_write : c ∉ write width n :=
  not_mem_of_digits other fun _ => isDigit_of_mem_write

theorem read_eq_none (member : c ∈ s) : read width s = none := by
  rw [read, if_neg]
  rintro ⟨-, digits⟩
  exact not_mem_of_digits other (List.all_eq_true.mp digits) member

end DriftTracing.Lib.DecimalField
