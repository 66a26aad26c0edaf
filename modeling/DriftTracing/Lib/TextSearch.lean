import Mathlib.Data.List.Basic
import Mathlib.Tactic.Common

/-!
# Searching a text for a pattern

`find pat s` is the first position of `s` at which the pattern begins, `findFrom` the
first one at or behind a given position, and `cut` gives the texts in front of the first
match and behind it. A text is cut exactly where it was joined, if what was put in front
of the pattern does not contain the pattern's first element.
-/
namespace DriftTracing.Lib.TextSearch

variable {α : Type*} [DecidableEq α]

def find (pat : List α) : List α → Option Nat
  | [] => if pat = [] then some 0 else none
  | c :: cs => if pat.isPrefixOf (c :: cs) then some 0 else (find pat cs).map (· + 1)

def findFrom (pat s : List α) (pos : Nat) : Option Nat :=
  if pos ≤ s.length then (find pat (s.drop pos)).map (· + pos) else none

/-- The text in front of the first match, and the text behind it. -/
def cut (pat s : List α) : Option (List α × List α) :=
  (find pat s).map fun i => (s.take i, s.drop (i + pat.length))

variable {c : α} {pat pre post s : List α}

/-- Where the pattern's first element is missing there is no match. -/
theorem find_eq_none (free : c ∉ s) : find (c :: pat) s = none := by
  induction s with
  | nil => simp [find]
  | cons d ds ih =>
    rw [List.mem_cons, not_or] at free
    simp [find, free.1, ih free.2]

/-- The first match is where the pattern was put. -/
theorem find_append (free : c ∉ pre) :
    find (c :: pat) (pre ++ (c :: pat ++ post)) = some pre.length := by
  induction pre with
  | nil => simp [find]
  | cons d ds ih =>
    rw [List.mem_cons, not_or] at free
    rw [List.cons_append, find, ih free.2]
    simp [free.1]

/-- A separator of one element. -/
theorem find_separator (free : c ∉ pre) : find [c] (pre ++ c :: post) = some pre.length :=
  @find_append α _ c [] pre post free

/-- The pattern is where it is found. -/
theorem exists_of_find {i : Nat} (found : find pat s = some i) :
    ∃ pre post, s = pre ++ (pat ++ post) ∧ pre.length = i := by
  induction s generalizing i with
  | nil =>
    simp only [find] at found
    split at found
    · next empty => exact ⟨[], [], by simp [empty], by simpa using found⟩
    · simp at found
  | cons d ds ih =>
    rw [find] at found
    split at found
    · next here =>
      obtain ⟨post, whole⟩ := List.isPrefixOf_iff_prefix.mp here
      exact ⟨[], post, whole.symm, by simpa using found⟩
    · obtain ⟨j, later, rfl⟩ := Option.map_eq_some_iff.mp found
      obtain ⟨pre, post, rfl, rfl⟩ := ih later
      exact ⟨d :: pre, post, rfl, rfl⟩

theorem cut_eq_none (missing : find pat s = none) : cut pat s = none := by
  simp [cut, missing]

theorem cut_of_find (found : find pat (pre ++ (pat ++ post)) = some pre.length) :
    cut pat (pre ++ (pat ++ post)) = some (pre, post) := by
  rw [cut, found, Option.map_some, List.take_left, List.drop_length_add_append, List.drop_left]

theorem cut_separator (free : c ∉ pre) : cut [c] (pre ++ c :: post) = some (pre, post) :=
  cut_of_find (find_separator free)

/-- Searching behind a front is searching the rest. -/
theorem findFrom_append (pat front rest : List α) :
    findFrom pat (front ++ rest) front.length = (find pat rest).map (· + front.length) := by
  simp [findFrom]

end DriftTracing.Lib.TextSearch
