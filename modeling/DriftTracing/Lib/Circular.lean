import Mathlib.Data.List.Basic
import Mathlib.Data.Nat.ModEq
import Mathlib.Tactic.Common

/-!
# Circular reading of a block of cells

`read cells n start len` lists `len` cells of a block of `n`, from index `start`
on and around the physical end. The cells are a function, so the lemmas hold for
any array representation. `start` need not be reduced modulo `n`.
-/
namespace DriftTracing.Lib.Circular

variable {α : Type*}

def read (cells : Nat → α) (n start len : Nat) : List α :=
  (List.range len).map fun k => cells ((start + k) % n)

@[simp] theorem read_zero (cells : Nat → α) (n start : Nat) : read cells n start 0 = [] := rfl

@[simp] theorem read_length (cells : Nat → α) (n start len : Nat) :
    (read cells n start len).length = len := by
  simp [read]

/-- Reading one cell more appends the cell behind the last one. -/
theorem read_succ (cells : Nat → α) (n start len : Nat) :
    read cells n start (len + 1) = read cells n start len ++ [cells ((start + len) % n)] := by
  simp [read, List.range_succ]

/-- The first cell read is the one at the reduced start. -/
theorem read_cons (cells : Nat → α) (n start len : Nat) :
    read cells n start (len + 1) = cells (start % n) :: read cells n (start + 1) len := by
  simp only [read, List.range_succ_eq_map, List.map_cons, List.map_map, Nat.add_zero,
    List.cons.injEq, true_and]
  apply List.map_congr_left
  intro k _
  simp only [Function.comp_apply, Nat.succ_eq_add_one]
  congr 2
  omega

theorem read_start_mod (cells : Nat → α) (n start len : Nat) :
    read cells n (start % n) len = read cells n start len := by
  simp [read, Nat.mod_add_mod]

theorem read_tail (cells : Nat → α) (n start len : Nat) :
    (read cells n start len).tail = read cells n (start + 1) (len - 1) := by
  cases len with
  | zero => rfl
  | succ len => rw [read_cons, List.tail_cons, Nat.add_sub_cancel]

theorem read_congr {cells cells' : Nat → α} {n start len : Nat}
    (same : ∀ k < len, cells ((start + k) % n) = cells' ((start + k) % n)) :
    read cells n start len = read cells' n start len := by
  apply List.map_congr_left
  intro k hk
  exact same k (List.mem_range.mp hk)

/-- Two offsets of one revolution reach the same cell only when they are equal. -/
theorem offset_injective {n start j k : Nat} (hj : j < n) (hk : k < n)
    (same : (start + j) % n = (start + k) % n) : j = k := by
  have h : j ≡ k [MOD n] := Nat.ModEq.add_left_cancel' start same
  rwa [Nat.ModEq, Nat.mod_eq_of_lt hj, Nat.mod_eq_of_lt hk] at h

/-- Writing the cell behind the last one read leaves the reading unchanged, as
long as one cell of the revolution stays free. -/
theorem read_write_behind {cells cells' : Nat → α} {n start len : Nat} (free : len < n)
    (frame : ∀ i, i ≠ (start + len) % n → cells' i = cells i) :
    read cells' n start len = read cells n start len := by
  apply read_congr
  intro k hk
  apply frame
  intro same
  have := offset_injective (by omega) free same
  omega

end DriftTracing.Lib.Circular
