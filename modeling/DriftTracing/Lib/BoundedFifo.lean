import DriftTracing.Lib.Circular
import Mathlib.Data.List.TakeWhile

/-!
# Bounded first-in first-out lists with cumulative removal

A list whose head is the oldest element. `push` appends and drops the oldest
element when the list already held `cap` elements. `takeThrough p` removes the
oldest element satisfying `p` together with everything older: one hit settles all
elements queued before it.
-/
namespace DriftTracing.Lib.BoundedFifo

variable {α β : Type*}

def push (cap : Nat) (xs : List α) (x : α) : List α :=
  if xs.length = cap then (xs ++ [x]).tail else xs ++ [x]

def takeThrough (p : α → Bool) : List α → Option (α × List α)
  | [] => none
  | x :: xs => if p x then some (x, xs) else takeThrough p xs

/-- The pushed list is what was appended to, without at most one element in front. -/
theorem push_suffix (cap : Nat) (xs : List α) (x : α) : push cap xs x <:+ xs ++ [x] := by
  unfold push
  split
  · exact List.tail_suffix _
  · exact List.suffix_refl _

theorem mem_push {cap : Nat} {xs : List α} {x y : α} (h : y ∈ push cap xs x) :
    y ∈ xs ∨ y = x := by
  have := (push_suffix cap xs x).subset h
  simpa using this

/-- With any capacity at all the pushed element is in. -/
theorem mem_push_self {cap : Nat} (positive : 0 < cap) (xs : List α) (x : α) :
    x ∈ push cap xs x := by
  unfold push
  split
  · next full =>
    cases xs with
    | nil =>
      rw [List.length_nil] at full
      omega
    | cons y ys => simp
  · simp

theorem push_map (f : α → β) (cap : Nat) (xs : List α) (x : α) :
    (push cap xs x).map f = push cap (xs.map f) (f x) := by
  unfold push
  rw [List.length_map]
  split
  · rw [List.map_tail, List.map_append, List.map_singleton]
  · rw [List.map_append, List.map_singleton]

theorem takeThrough_eq_some {p : α → Bool} {xs newer : List α} {x : α} :
    takeThrough p xs = some (x, newer) ↔
      ∃ older, xs = older ++ x :: newer ∧ (∀ y ∈ older, p y = false) ∧ p x = true := by
  induction xs with
  | nil => simp [takeThrough]
  | cons a as ih =>
    by_cases ha : p a = true
    · simp only [takeThrough, ha, if_true, Option.some.injEq, Prod.mk.injEq]
      constructor
      · rintro ⟨rfl, rfl⟩
        exact ⟨[], rfl, by simp, ha⟩
      · rintro ⟨older, split, unmatched, -⟩
        cases older with
        | nil =>
          simp only [List.nil_append, List.cons.injEq] at split
          exact split
        | cons b bs =>
          simp only [List.cons_append, List.cons.injEq] at split
          have := unmatched b (by simp)
          simp [← split.1, ha] at this
    · have ha' : p a = false := by simpa using ha
      rw [takeThrough, if_neg ha, ih]
      constructor
      · rintro ⟨older, rfl, unmatched, hx⟩
        exact ⟨a :: older, rfl, by simpa [ha'] using unmatched, hx⟩
      · rintro ⟨older, split, unmatched, hx⟩
        cases older with
        | nil =>
          simp only [List.nil_append, List.cons.injEq] at split
          rw [split.1] at ha
          exact absurd hx ha
        | cons b bs =>
          simp only [List.cons_append, List.cons.injEq] at split
          exact ⟨bs, split.2, fun y hy => unmatched y (by simp [hy]), hx⟩

theorem takeThrough_eq_none {p : α → Bool} {xs : List α} :
    takeThrough p xs = none ↔ ∀ x ∈ xs, p x = false := by
  induction xs with
  | nil => simp [takeThrough]
  | cons a as ih =>
    by_cases ha : p a = true
    · simp [takeThrough, ha]
    · simp [takeThrough, ha, ih]

/-- A forward scan of circularly read cells finds the element `takeThrough`
removes, and what it leaves is the reading that starts behind the hit. -/
theorem takeThrough_read (p : α → Bool) (cells : Nat → α) (n start len : Nat) :
    takeThrough p (Circular.read cells n start len) =
      ((List.range' start len).find? fun j => p (cells (j % n))).map fun j =>
        (cells (j % n), Circular.read cells n (j + 1) (start + len - (j + 1))) := by
  induction len generalizing start with
  | zero => rfl
  | succ len ih =>
    rw [Circular.read_cons, takeThrough, List.range'_succ, List.find?_cons]
    by_cases hit : p (cells (start % n)) = true
    · simp [hit, Nat.add_sub_add_left]
    · simp only [hit, if_false, ih, Bool.false_eq_true]
      rw [show start + 1 + len = start + (len + 1) by omega]

/-- The newest elements of a history, oldest first: at most `cap` of them, and none
that is as old as an element that is gone. -/
def recent (cap : Nat) (gone : α → Bool) (history : List α) : List α :=
  ((history.reverse.takeWhile fun x => !gone x).take cap).reverse

theorem recent_nil (cap : Nat) (gone : α → Bool) : recent cap gone [] = [] := by
  simp [recent]

theorem recent_suffix (cap : Nat) (gone : α → Bool) (history : List α) :
    recent cap gone history <:+ history := by
  rw [← List.reverse_prefix, recent, List.reverse_reverse]
  exact (List.take_prefix _ _).trans (List.takeWhile_prefix _)

theorem not_gone_of_mem_recent {cap : Nat} {gone : α → Bool} {history : List α} {x : α}
    (h : x ∈ recent cap gone history) : gone x = false := by
  rw [recent, List.mem_reverse] at h
  simpa using List.mem_takeWhile_imp (List.mem_of_mem_take h)

theorem recent_length_le (cap : Nat) (gone : α → Bool) (history : List α) :
    (recent cap gone history).length ≤ cap := by
  rw [recent, List.length_reverse]
  exact List.length_take_le _ _

/-- Newest first, pushing is putting the element in front and cutting to the capacity. -/
theorem push_eq_take {cap : Nat} {xs : List α} (bound : xs.length ≤ cap) (x : α) :
    push cap xs x = ((x :: xs.reverse).take cap).reverse := by
  have newest : x :: xs.reverse = (xs ++ [x]).reverse := by simp
  have length : (xs ++ [x]).reverse.length = xs.length + 1 := by simp
  rw [newest]
  unfold push
  split
  · next full =>
    have last : (xs ++ [x]).reverse.take cap = (xs ++ [x]).reverse.dropLast := by
      rw [List.dropLast_eq_take, length, full, Nat.add_sub_cancel]
    rw [last, List.dropLast_reverse, List.reverse_reverse]
  · next room =>
    rw [List.take_of_length_le (by omega), List.reverse_reverse]

/-- A short list is all of its newest elements. -/
theorem recent_of_length_le {cap : Nat} {history : List α} (bound : history.length ≤ cap) :
    recent cap (fun _ => false) history = history := by
  rw [recent, List.takeWhile_eq_self_iff.mpr (by simp),
    List.take_of_length_le (by rwa [List.length_reverse]), List.reverse_reverse]

/-- Pushing keeps exactly the newest elements of the longer history. -/
theorem push_recent (cap : Nat) {gone : α → Bool} (history : List α) {x : α}
    (here : gone x = false) :
    push cap (recent cap gone history) x = recent cap gone (history ++ [x]) := by
  rw [push_eq_take (recent_length_le cap gone history), recent, List.reverse_reverse, recent,
    List.reverse_append, List.reverse_singleton, List.singleton_append,
    List.takeWhile_cons_of_pos (by simp [here])]
  cases cap with
  | zero => rfl
  | succ n => rw [List.take_succ_cons, List.take_succ_cons, List.take_take,
      Nat.min_eq_left (Nat.le_succ n)]

/-- An element is among the newest when fewer than `cap` followed it, and neither it
nor any of these is gone. -/
theorem mem_recent_iff {cap : Nat} {gone : α → Bool} {history : List α} {x : α} :
    x ∈ recent cap gone history ↔
      ∃ older newer, history = older ++ x :: newer ∧ newer.length < cap ∧
        ∀ y ∈ x :: newer, gone y = false := by
  constructor
  · intro h
    obtain ⟨before, newer, split⟩ := List.append_of_mem h
    obtain ⟨front, whole⟩ := recent_suffix cap gone history
    refine ⟨front ++ before, newer, ?_, ?_, fun y hy => ?_⟩
    · rw [← whole, split, List.append_assoc]
    · have bound := recent_length_le cap gone history
      rw [split, List.length_append, List.length_cons] at bound
      omega
    · apply not_gone_of_mem_recent
      rw [split]
      exact List.mem_append_right _ hy
  · intro h
    obtain ⟨older, newer, rfl, short, here⟩ := h
    have all : ∀ y ∈ newer.reverse ++ [x], (!gone y) = true := by
      intro y hy
      have := here y (by simpa [or_comm] using hy)
      simp [this]
    have front : newer.reverse ++ [x] <+:
        ((older ++ x :: newer).reverse.takeWhile fun y => !gone y).take cap := by
      rw [List.prefix_take_iff, List.reverse_append, List.reverse_cons,
        List.takeWhile_append_of_pos all]
      exact ⟨List.prefix_append _ _, by simp; omega⟩
    rw [recent, List.mem_reverse]
    exact front.subset (by simp)

/-- Enough new elements push all older ones out. -/
theorem mem_of_mem_recent_append {cap : Nat} {gone : α → Bool} {older newer : List α}
    (enough : cap ≤ newer.length) {x : α} (h : x ∈ recent cap gone (older ++ newer)) :
    x ∈ newer := by
  obtain ⟨front, rest, split, short, -⟩ := mem_recent_iff.mp h
  rcases List.append_eq_append_iff.mp split with ⟨mid, -, newer_eq⟩ | ⟨mid, older_eq, rest_eq⟩
  · rw [newer_eq]
    simp
  · cases mid with
    | nil =>
      rw [List.nil_append] at rest_eq
      rw [← rest_eq]
      exact List.mem_cons_self
    | cons y mid =>
      rw [List.cons_append, List.cons.injEq] at rest_eq
      rw [rest_eq.2, List.length_append] at short
      omega

/-- Once an element of the history is gone, what is left is what was newer. -/
theorem recent_of_gone {cap : Nat} {gone gone' : α → Bool} {history older newer : List α} {x : α}
    (split : recent cap gone history = older ++ x :: newer) (away : gone' x = true)
    (here : ∀ y ∈ newer, gone' y = false) : recent cap gone' history = newer := by
  obtain ⟨front, whole⟩ := recent_suffix cap gone history
  have bound := recent_length_le cap gone history
  rw [split, List.length_append, List.length_cons] at bound
  have history_eq : history.reverse = newer.reverse ++ (x :: (front ++ older).reverse) := by
    rw [← whole, split]
    simp
  rw [recent, history_eq, List.takeWhile_append_of_pos (by simpa using here),
    List.takeWhile_cons_of_neg (by simp [away]), List.append_nil,
    List.take_of_length_le (by rw [List.length_reverse]; omega), List.reverse_reverse]

end DriftTracing.Lib.BoundedFifo
