import DriftTracing.Lib.Runs
import Mathlib.Order.Monotone.Basic
import Mathlib.Tactic.Linarith

/-!
# Unwrapping a counter that wraps

A sender stamps each message with its time modulo `period`. The receiver counts
completed turns: near the end of a turn it starts checking for the wrap, credits
small stamps to the next turn while it checks, and commits the turn with the first
stamp between one and two windows into it.

The tracker follows the true time of any stream in which each time lies less than
one window behind and at most one window ahead of the newest time before it.
-/
namespace DriftTracing.Lib.Unwrap

structure Tracker where
  checking : Bool := false
  turns : Nat := 0
  deriving DecidableEq, Repr

/-- The stamp commits the turn that is being checked for. -/
def Tracker.Commits (window : Nat) (t : Tracker) (stamp : Nat) : Prop :=
  t.checking = true ∧ window ≤ stamp ∧ stamp ≤ 2 * window

instance (window : Nat) (t : Tracker) (stamp : Nat) : Decidable (t.Commits window stamp) :=
  inferInstanceAs (Decidable (_ ∧ _ ∧ _))

def Tracker.observe (period window : Nat) (t : Tracker) (stamp : Nat) : Tracker :=
  if t.checking then
    if window ≤ stamp ∧ stamp ≤ 2 * window then { checking := false, turns := t.turns + 1 } else t
  else if period - 1 - window < stamp then { t with checking := true } else t

/-- The turns credited to a stamp, the one being checked for included. -/
def Tracker.turnsOf (window : Nat) (t : Tracker) (stamp : Nat) : Nat :=
  if t.checking ∧ stamp < window then t.turns + 1 else t.turns

/-- The newest of the times up to index `k`. -/
def newest (time : Nat → Nat) : Nat → Nat
  | 0 => time 0
  | k + 1 => max (newest time k) (time (k + 1))

/-- The first `n` times never precede the first one, and stay within one window of
the newest time before them. -/
structure Paced (window : Nat) (time : Nat → Nat) (n : Nat) : Prop where
  origin : ∀ k < n, time 0 ≤ time k
  behind : ∀ k, k + 1 < n → newest time k < time (k + 1) + window
  ahead : ∀ k, k + 1 < n → time (k + 1) ≤ newest time k + window

variable {period window origin : Nat}

theorem le_newest (time : Nat → Nat) {j k : Nat} (h : j ≤ k) : time j ≤ newest time k := by
  induction k with
  | zero => rw [Nat.le_zero.mp h, newest]
  | succ k ih =>
    rcases Nat.eq_or_lt_of_le h with rfl | below
    · exact Nat.le_max_right _ _
    · exact Nat.le_trans (ih (by omega)) (Nat.le_max_left _ _)

/-- The newest time is one of the times. -/
theorem newest_mem (time : Nat → Nat) (k : Nat) : ∃ j ≤ k, newest time k = time j := by
  induction k with
  | zero => exact ⟨0, Nat.le_refl _, rfl⟩
  | succ k ih =>
    obtain ⟨j, hj, attained⟩ := ih
    rcases Nat.le_total (newest time k) (time (k + 1)) with h | h
    · exact ⟨k + 1, Nat.le_refl _, Nat.max_eq_right h⟩
    · exact ⟨j, by omega, (Nat.max_eq_left h).trans attained⟩

/-- A stream without reordering, and without gaps of more than one window. -/
theorem Paced.of_forward {window : Nat} (time : Nat → Nat) (n : Nat) (positive : 0 < window)
    (forward : ∀ k, time k ≤ time (k + 1)) (gaps : ∀ k, time (k + 1) ≤ time k + window) :
    Paced window time n := by
  have ordered : Monotone time := monotone_nat_of_le_succ forward
  have last (k : Nat) : newest time k = time k := by
    obtain ⟨j, hj, attained⟩ := newest_mem time k
    exact Nat.le_antisymm (attained ▸ ordered hj) (le_newest time (Nat.le_refl k))
  refine ⟨fun k _ => ordered (Nat.zero_le k), fun k _ => ?_, fun k _ => ?_⟩
  · rw [last]
    have := forward k
    omega
  · rw [last]
    exact gaps k

/-- Two times at most one window apart are in the same turn or in adjacent ones. -/
theorem turn_cases {a b : Nat} (narrow : window < period) (low : b < a + window)
    (high : a ≤ b + window) :
    (a / period = b / period ∧ a + b % period = b + a % period) ∨
      (a / period = b / period + 1 ∧ a + b % period = b + a % period + period) ∨
      (a / period + 1 = b / period ∧ a + b % period + period = b + a % period) := by
  have ha := Nat.div_add_mod a period
  have hb := Nat.div_add_mod b period
  have ra := Nat.mod_lt a (Nat.zero_lt_of_lt narrow)
  have rb := Nat.mod_lt b (Nat.zero_lt_of_lt narrow)
  rcases Nat.lt_trichotomy (a / period) (b / period) with before | same | later
  · obtain ⟨d, next⟩ := Nat.exists_eq_add_of_lt before
    rw [next, Nat.mul_add, Nat.mul_add, Nat.mul_one] at hb
    cases d with
    | zero => omega
    | succ d =>
      rw [Nat.mul_add, Nat.mul_one] at hb
      omega
  · rw [same] at ha
    omega
  · obtain ⟨d, next⟩ := Nat.exists_eq_add_of_lt later
    rw [next, Nat.mul_add, Nat.mul_add, Nat.mul_one] at ha
    cases d with
    | zero => omega
    | succ d =>
      rw [Nat.mul_add, Nat.mul_one] at ha
      omega

/-- The tracker agrees with the newest time, whose turns are counted from `origin`.
Settled, the newest time is clear of the end of its turn, and of the start of any
turn that was committed; checking, it is in the last window of a turn or in the
first of the next. -/
structure Tracks (period window origin newest : Nat) (t : Tracker) : Prop where
  settled : t.checking = false →
    newest / period = origin + t.turns ∧ newest % period + window < period ∧
      (t.turns = 0 ∨ window ≤ newest % period)
  wrapping : t.checking = true →
    (newest / period = origin + t.turns ∧ period ≤ newest % period + window) ∨
      (newest / period = origin + t.turns + 1 ∧ newest % period < window)

/-- Observing a stamp changes the turns credited to it only if it commits one. -/
theorem Tracker.turnsOf_observe (room : 2 * window < period) (t : Tracker) (stamp : Nat) :
    (t.observe period window stamp).turnsOf window stamp =
      t.turnsOf window stamp + if t.Commits window stamp then 1 else 0 := by
  obtain ⟨checking, turns⟩ := t
  unfold Tracker.observe Tracker.turnsOf Tracker.Commits
  cases checking with
  | false =>
    simp only [Bool.false_eq_true, false_and, if_false, Nat.add_zero]
    by_cases arms : period - 1 - window < stamp
    · simp only [arms, if_true, true_and]
      rw [if_neg (by omega)]
    · simp only [arms, if_false, Bool.false_eq_true, false_and]
  | true =>
    simp only [if_true, true_and]
    by_cases commits : window ≤ stamp ∧ stamp ≤ 2 * window
    · simp only [commits, and_self, if_true, Bool.false_eq_true, false_and, if_false]
      rw [if_neg (by omega)]
    · simp only [commits, if_false, true_and, Nat.add_zero]

/-- Before its stamp is observed a time is credited the right turns, unless the
stamp is the one that commits a turn. -/
theorem Tracks.credits {newest time : Nat} {t : Tracker} (h : Tracks period window origin newest t)
    (room : 4 * window < period) (start : origin ≤ time / period)
    (low : newest < time + window) (high : time ≤ newest + window) :
    time / period = origin + t.turnsOf window (time % period) +
      if t.Commits window (time % period) then 1 else 0 := by
  have positive : 0 < period := by omega
  have narrow : window < period := by omega
  have turn := turn_cases narrow low high
  have rt := Nat.mod_lt time positive
  have rn := Nat.mod_lt newest positive
  obtain ⟨settled, wrapping⟩ := h
  obtain ⟨checking, turns⟩ := t
  unfold Tracker.turnsOf Tracker.Commits
  dsimp only at settled wrapping ⊢
  cases checking with
  | false =>
    have before := settled rfl
    simp only [Bool.false_eq_true, false_and, if_false]
    omega
  | true =>
    have before := wrapping rfl
    simp only [true_and]
    by_cases commits : window ≤ time % period ∧ time % period ≤ 2 * window
    · rw [if_pos commits, if_neg (by omega)]
      omega
    · rw [if_neg commits]
      split
      · omega
      · omega

/-- Observing the stamp of the next time keeps the tracker in agreement with the
newest time. -/
theorem Tracks.observe {newest time : Nat} {t : Tracker} (h : Tracks period window origin newest t)
    (room : 4 * window < period) (start : origin ≤ time / period)
    (low : newest < time + window) (high : time ≤ newest + window) :
    Tracks period window origin (max newest time) (t.observe period window (time % period)) := by
  have positive : 0 < period := by omega
  have narrow : window < period := by omega
  have turn := turn_cases narrow low high
  have rt := Nat.mod_lt time positive
  have rn := Nat.mod_lt newest positive
  have larger := max_cases newest time
  obtain ⟨settled, wrapping⟩ := h
  obtain ⟨checking, turns⟩ := t
  dsimp only at settled wrapping
  generalize max newest time = m at larger ⊢
  unfold Tracker.observe
  cases checking with
  | false =>
    have before := settled rfl
    rw [if_neg Bool.false_ne_true]
    by_cases arms : period - 1 - window < time % period
    · rw [if_pos arms]
      refine ⟨by simp, fun _ => Or.inl ?_⟩
      dsimp only
      rcases larger with ⟨rfl, le⟩ | ⟨rfl, lt⟩
      · omega
      · omega
    · rw [if_neg arms]
      refine ⟨fun _ => ?_, by simp⟩
      dsimp only
      rcases larger with ⟨rfl, le⟩ | ⟨rfl, lt⟩
      · omega
      · omega
  | true =>
    have before := wrapping rfl
    rw [if_pos rfl]
    by_cases commits : window ≤ time % period ∧ time % period ≤ 2 * window
    · rw [if_pos commits]
      refine ⟨fun _ => ?_, by simp⟩
      dsimp only
      rcases larger with ⟨rfl, le⟩ | ⟨rfl, lt⟩
      · omega
      · omega
    · rw [if_neg commits]
      refine ⟨by simp, fun _ => ?_⟩
      dsimp only
      rcases larger with ⟨rfl, le⟩ | ⟨rfl, lt⟩
      · omega
      · omega

/-- The tracker after the stamps with indices `1` to `k`: the first stamp only
fixes the turn from which the others are counted. -/
def Tracker.after (period window : Nat) (stamp : Nat → Nat) : Nat → Tracker
  | 0 => {}
  | k + 1 => (Tracker.after period window stamp k).observe period window (stamp (k + 1))

/-- The tracker depends only on the stamps it has seen. -/
theorem Tracker.after_congr {stamp stamp' : Nat → Nat} {k : Nat}
    (same : ∀ j ≤ k, stamp j = stamp' j) :
    Tracker.after period window stamp k = Tracker.after period window stamp' k := by
  induction k with
  | zero => rfl
  | succ k ih =>
    rw [Tracker.after, Tracker.after, ih fun j hj => same j (by omega), same (k + 1) le_rfl]

/-- Stamps clear of the end of a turn leave the tracker as it started. -/
theorem Tracker.after_eq_start {stamp : Nat → Nat} {k : Nat}
    (clear : ∀ j ≤ k, stamp j ≤ period - 1 - window) :
    Tracker.after period window stamp k = {} := by
  induction k with
  | zero => rfl
  | succ k ih =>
    have last := clear (k + 1) (Nat.le_refl _)
    rw [Tracker.after, ih fun j hj => clear j (by omega), Tracker.observe]
    simp [last]

variable {time : Nat → Nat} {n : Nat}

/-- The tracker of a stream of true times, which sees them modulo the period. -/
def trackerAt (period window : Nat) (time : Nat → Nat) (k : Nat) : Tracker :=
  Tracker.after period window (fun j => time j % period) k

theorem Paced.tracks_succ (paced : Paced window time n) (room : 4 * window < period) {k : Nat}
    (hk : k + 1 < n) (start : origin ≤ time 0 / period)
    (h : Tracks period window origin (newest time k) (trackerAt period window time k)) :
    Tracks period window origin (newest time (k + 1)) (trackerAt period window time (k + 1)) :=
  h.observe room (start.trans (Nat.div_le_div_right (paced.origin _ hk)))
    (paced.behind k hk) (paced.ahead k hk)

/-- What the tracker credits the next time before it observes its stamp. -/
theorem Paced.credits_before (paced : Paced window time n) (room : 4 * window < period) {k : Nat}
    (hk : k + 1 < n) (start : origin ≤ time 0 / period)
    (h : Tracks period window origin (newest time k) (trackerAt period window time k)) :
    time (k + 1) / period = origin +
      (trackerAt period window time k).turnsOf window (time (k + 1) % period) +
        if (trackerAt period window time k).Commits window (time (k + 1) % period) then 1
        else 0 :=
  h.credits room (start.trans (Nat.div_le_div_right (paced.origin _ hk)))
    (paced.behind k hk) (paced.ahead k hk)

/-- Once it has observed the stamp the tracker credits the right turns. -/
theorem Paced.credits_after (paced : Paced window time n) (room : 4 * window < period) {k : Nat}
    (hk : k + 1 < n) (start : origin ≤ time 0 / period)
    (h : Tracks period window origin (newest time k) (trackerAt period window time k)) :
    time (k + 1) / period = origin +
      (trackerAt period window time (k + 1)).turnsOf window (time (k + 1) % period) := by
  have wide : 2 * window < period := by omega
  have observed := Tracker.turnsOf_observe wide (trackerAt period window time k)
    (time (k + 1) % period)
  rw [paced.credits_before room hk start h, Nat.add_assoc, ← observed]
  rfl

/-- Once the tracker agrees with the newest time it does so for good. -/
theorem Paced.tracks_from (paced : Paced window time n) (room : 4 * window < period) {j : Nat}
    (start : origin ≤ time 0 / period)
    (h : Tracks period window origin (newest time j) (trackerAt period window time j)) {k : Nat}
    (after : j ≤ k) (hk : k < n) :
    Tracks period window origin (newest time k) (trackerAt period window time k) := by
  induction k with
  | zero => rwa [Nat.le_zero.mp after] at h
  | succ k ih =>
    rcases Nat.eq_or_lt_of_le after with rfl | below
    · exact h
    · exact paced.tracks_succ room hk start (ih (by omega) (by omega))

/-- A first time clear of the end of its turn is tracked from the start. -/
theorem tracks_zero (clear : time 0 % period + window < period) :
    Tracks period window (time 0 / period) (newest time 0) (trackerAt period window time 0) :=
  ⟨fun _ => ⟨rfl, clear, Or.inl rfl⟩, fun checking => nomatch checking⟩

theorem Paced.tracks (paced : Paced window time n) (room : 4 * window < period)
    (clear : time 0 % period + window < period) {k : Nat} (hk : k < n) :
    Tracks period window (time 0 / period) (newest time k) (trackerAt period window time k) :=
  paced.tracks_from room (Nat.le_refl _) (tracks_zero clear) (Nat.zero_le k) hk

/-- Every time of a stream that starts clear of the end of a turn is credited the
right number of turns once its stamp has been observed. -/
theorem Paced.turns_eq (paced : Paced window time n) (room : 4 * window < period)
    (clear : time 0 % period + window < period) {k : Nat} (hk : k < n) :
    time k / period =
      time 0 / period + (trackerAt period window time k).turnsOf window (time k % period) := by
  cases k with
  | zero => simp [trackerAt, Tracker.after, Tracker.turnsOf]
  | succ k =>
    exact paced.credits_after room hk (Nat.le_refl _) (paced.tracks room clear (by omega))

/-- Time number `k` is the first at least one window into a turn later than the
turn of the first time. -/
def FirstPastWindow (period window : Nat) (time : Nat → Nat) (k : Nat) : Prop :=
  time 0 / period < time k / period ∧ window ≤ time k % period ∧
    ∀ j < k, time j < period * (time k / period) + window

/-- The stamps that commit a turn are those of the first times past the window. -/
theorem Paced.commits_iff (paced : Paced window time n) (room : 4 * window < period)
    (clear : time 0 % period + window < period) {k : Nat} (hk : k + 1 < n) :
    (trackerAt period window time k).Commits window (time (k + 1) % period) ↔
      FirstPastWindow period window time (k + 1) := by
  have positive : 0 < period := by omega
  have narrow : window < period := by omega
  have known : k < n := by omega
  have tracks := paced.tracks room clear known
  have step := paced.credits_before room hk (Nat.le_refl _) tracks
  have behind := paced.behind k hk
  have ahead := paced.ahead k hk
  have turn := turn_cases narrow behind ahead
  have now := Nat.div_add_mod (time (k + 1)) period
  have before := Nat.div_add_mod (newest time k) period
  have bound := Nat.mod_lt (newest time k) positive
  constructor
  · intro commits
    obtain ⟨checking, low, high⟩ := commits
    have phase := tracks.wrapping checking
    rw [if_pos ⟨checking, low, high⟩, Tracker.turnsOf, if_neg (by omega)] at step
    refine ⟨by omega, low, fun j hj => ?_⟩
    have earlier : j ≤ k := by omega
    have older := le_newest time earlier
    have same : newest time k / period = time (k + 1) / period := by omega
    rw [same] at before
    omega
  · intro past
    obtain ⟨later, low, first⟩ := past
    obtain ⟨j, hj, attained⟩ := newest_mem time k
    have earlier := first j (by omega)
    rw [← attained] at earlier
    have same : newest time k / period = time (k + 1) / period := by
      rcases turn with ⟨same, -⟩ | ⟨next, shifted⟩ | ⟨next, shifted⟩
      · exact same.symm
      · rw [next, Nat.mul_add, Nat.mul_one] at earlier now
        omega
      · rw [← next, Nat.mul_add, Nat.mul_one] at before
        omega
    rw [same] at before
    have checking : (trackerAt period window time k).checking = true := by
      by_contra settled
      have := tracks.settled (by simpa using settled)
      omega
    exact ⟨checking, low, by omega⟩

/-- A stream that starts in the last window of a turn is credited the right turns
throughout exactly when its second time, if any, is still in that turn: the first
stamp does not make the tracker check for the wrap, the second one does. -/
theorem Paced.turns_eq_iff_of_late_start (paced : Paced window time n)
    (room : 4 * window < period) (late : period ≤ time 0 % period + window) :
    (∀ k < n, time k / period =
        time 0 / period + (trackerAt period window time k).turnsOf window (time k % period)) ↔
      n ≤ 1 ∨ time 1 / period = time 0 / period := by
  rcases Nat.lt_or_ge 1 n with two | short
  · have start := paced.origin 1 two
    have ahead : time 1 ≤ time 0 + window := paced.ahead 0 two
    have behind : time 0 < time 1 + window := paced.behind 0 two
    have positive : 0 < period := by omega
    have narrow : window < period := by omega
    have turn := turn_cases narrow behind ahead
    have now := Nat.div_add_mod (time 1) period
    have before := Nat.div_add_mod (time 0) period
    have bound := Nat.mod_lt (time 0) positive
    have bound' := Nat.mod_lt (time 1) positive
    have first : trackerAt period window time 1 =
        if period - 1 - window < time 1 % period then { checking := true } else {} := rfl
    constructor
    · intro right
      have credited := right 1 two
      right
      by_contra moved
      rw [first, if_neg (by omega)] at credited
      simp only [Tracker.turnsOf, Bool.false_eq_true, false_and, if_false] at credited
      omega
    · intro early
      rcases early with short | same
      · omega
      · rw [same] at now
        rw [if_pos (by omega)] at first
        have armed : Tracks period window (time 0 / period) (newest time 1)
            (trackerAt period window time 1) := by
          rw [first]
          refine ⟨fun settled => by simp at settled, fun _ => Or.inl ?_⟩
          have larger : newest time 1 = time 1 := Nat.max_eq_right start
          rw [larger]
          exact ⟨same, by omega⟩
        intro k hk
        match k with
        | 0 => simp [trackerAt, Tracker.after, Tracker.turnsOf]
        | 1 =>
          rw [first, Tracker.turnsOf, if_neg (by dsimp only; omega)]
          exact same
        | k + 2 =>
          exact paced.credits_after room hk (Nat.le_refl _)
            (paced.tracks_from room (Nat.le_refl _) armed (by omega) (by omega))
  · constructor
    · exact fun _ => Or.inl short
    · intro _ k hk
      have : k = 0 := by omega
      subst this
      simp [trackerAt, Tracker.after, Tracker.turnsOf]

end DriftTracing.Lib.Unwrap
