import DriftTracing.Guarantees.DriftLoop

/-!
# Drifts of limited rate

The correction loop takes at most one step a block. When the exact means of the raw
drifts over consecutive blocks differ by at most one step, the compensation keeps up
with them for good: what a block leaves uncompensated is less than one step and a
microsecond, although the raw drifts may grow without bound.
-/
namespace DriftTracing.Source.DriftLoop
open DriftTracing.Lib

variable {maxSpan : UInt32} {maxDrift : Int32}

/-- The exact mean of the raw drifts of block number `b`, counted from 0. -/
def exactMean (maxSpan : UInt32) (raw : Nat → Int) (b : Nat) : ℚ :=
  ((∑ i ∈ Finset.Ico (b * maxSpan.toNat) ((b + 1) * maxSpan.toNat), raw i : Int) : ℚ) /
    maxSpan.toNat

/-- The compensation after the first `b` blocks. -/
def blockShift (maxSpan : UInt32) (maxDrift : Int32) (raw : Nat → Int) (b : Nat) : Int :=
  (before maxSpan maxDrift raw (b * maxSpan.toNat)).shift

/-- The samples of a block are its raw drifts, less the compensation before it. -/
theorem lastSum_sample (hspan : 1 ≤ maxSpan.toNat) (raw : Nat → Int) (b : Nat) :
    Blocks.lastSum maxSpan.toNat (sample maxSpan maxDrift raw) ((b + 1) * maxSpan.toNat) =
      (∑ i ∈ Finset.Ico (b * maxSpan.toNat) ((b + 1) * maxSpan.toNat), raw i) -
        maxSpan.toNat * blockShift maxSpan maxDrift raw b := by
  have width : (b + 1) * maxSpan.toNat = b * maxSpan.toNat + maxSpan.toNat := Nat.succ_mul _ _
  have first : (b + 1) * maxSpan.toNat - maxSpan.toNat = b * maxSpan.toNat := by omega
  have constant : ∀ i ∈ Finset.Ico (b * maxSpan.toNat) ((b + 1) * maxSpan.toNat),
      sample maxSpan maxDrift raw i = raw i - blockShift maxSpan maxDrift raw b := by
    intro i hi
    rw [Finset.mem_Ico] at hi
    have start : i - i % maxSpan.toNat = b * maxSpan.toNat := by
      have block : i / maxSpan.toNat = b :=
        Nat.div_eq_of_lt_le hi.1 hi.2
      have split := Nat.div_add_mod' i maxSpan.toNat
      rw [block] at split
      omega
    have same := @shift_in_block maxSpan maxDrift hspan raw i (b * maxSpan.toNat) (by omega) hi.1
    rw [sample, blockShift, same]
  have count : (b + 1) * maxSpan.toNat - b * maxSpan.toNat = maxSpan.toNat := by omega
  rw [Blocks.lastSum, first, Finset.sum_congr rfl constant, Finset.sum_sub_distrib,
    Finset.sum_const, Nat.card_Ico, count, nsmul_eq_mul]

/-- The deviation a block measures exactly, before its correction. -/
theorem exactMean_sub_shift (hspan : 1 ≤ maxSpan.toNat) (raw : Nat → Int) (b : Nat) :
    exactMean maxSpan raw b - blockShift maxSpan maxDrift raw b =
      ((Blocks.lastSum maxSpan.toNat (sample maxSpan maxDrift raw)
        ((b + 1) * maxSpan.toNat) : Int) : ℚ) / maxSpan.toNat := by
  have positive : (maxSpan.toNat : ℚ) ≠ 0 := by
    have : maxSpan.toNat ≠ 0 := by omega
    exact_mod_cast this
  rw [lastSum_sample hspan, exactMean]
  push_cast
  field_simp

/-- What a block does to the published drift and to the compensation. -/
theorem block_closed (hspan : 1 ≤ maxSpan.toNat) (raw : Nat → Int) (b : Nat) :
    let mean := DriftTracer.blockMean maxSpan (sample maxSpan maxDrift raw)
      ((b + 1) * maxSpan.toNat)
    (before maxSpan maxDrift raw ((b + 1) * maxSpan.toNat)).tracer.drift =
        mean - Deadband.correction maxDrift.toInt mean ∧
      blockShift maxSpan maxDrift raw (b + 1) =
        blockShift maxSpan maxDrift raw b + Deadband.correction maxDrift.toInt mean := by
  have width : (b + 1) * maxSpan.toNat = b * maxSpan.toNat + maxSpan.toNat := Nat.succ_mul _ _
  obtain ⟨k, last⟩ : ∃ k, (b + 1) * maxSpan.toNat = k + 1 :=
    Nat.exists_eq_succ_of_ne_zero (by omega)
  have closed : maxSpan.toNat ∣ k + 1 := last ▸ Nat.dvd_mul_left _ _
  have opened : k - k % maxSpan.toNat = b * maxSpan.toNat := by
    have full := (Blocks.dvd_succ_iff _ _ hspan).mp closed
    omega
  rw [last]
  constructor
  · rw [before_tracer]
    change ((DriftTracer.after maxSpan maxDrift _ k).update _).2.drift = _
    rw [(DriftTracer.collects_after hspan _ k).update_closed hspan closed]
  · rw [blockShift, last, shift_closed hspan raw closed, blockShift]
    have same := @shift_in_block maxSpan maxDrift hspan raw k (b * maxSpan.toNat) (by omega)
      (by omega)
    rw [same]

/-- One block: a deviation of less than two steps and a microsecond is brought below
one step and a microsecond. -/
theorem block_tracks (hspan : 1 ≤ maxSpan.toNat) (raw : Nat → Int)
    (b : Nat)
    (near : |exactMean maxSpan raw b - blockShift maxSpan maxDrift raw b| <
      2 * maxDrift.toInt + 1) :
    ((before maxSpan maxDrift raw ((b + 1) * maxSpan.toNat)).tracer.drift.natAbs : Int) ≤
        maxDrift.toInt ∧
      |exactMean maxSpan raw b - blockShift maxSpan maxDrift raw (b + 1)| <
        maxDrift.toInt + 1 := by
  obtain ⟨drift, shift⟩ := @block_closed maxSpan maxDrift hspan raw b
  have measured := @exactMean_sub_shift maxSpan maxDrift hspan raw b
  have truncated := Deadband.tdiv_truncates
    (Blocks.lastSum maxSpan.toNat (sample maxSpan maxDrift raw) ((b + 1) * maxSpan.toNat)) hspan
  rw [← measured] at truncated
  obtain ⟨residual, left⟩ := Deadband.correction_tracks truncated near
  rw [drift, shift, Int.cast_add, ← sub_sub]
  exact ⟨residual, left⟩

/-- When the exact means of consecutive blocks differ by at most one step, and the
first is at most two steps, every completed block leaves a published drift of at
most one step and a deviation of less than one step and a microsecond. -/
theorem loop_tracks_limited_rate (hspan : 1 ≤ maxSpan.toNat) (raw : Nat → Int)
    (first : |exactMean maxSpan raw 0| ≤ 2 * maxDrift.toInt) (b : Nat)
    (rate : ∀ j < b,
      |exactMean maxSpan raw (j + 1) - exactMean maxSpan raw j| ≤ maxDrift.toInt) :
    let l := before maxSpan maxDrift raw ((b + 1) * maxSpan.toNat)
    (l.tracer.drift.natAbs : Int) ≤ maxDrift.toInt ∧
      |exactMean maxSpan raw b - l.shift| < maxDrift.toInt + 1 := by
  apply block_tracks hspan raw b
  induction b with
  | zero =>
    have start : blockShift maxSpan maxDrift raw 0 = 0 := by
      rw [blockShift, Nat.zero_mul]
      rfl
    rw [start, Int.cast_zero, sub_zero]
    exact first.trans_lt (lt_add_one _)
  | succ b ih =>
    have before := (block_tracks hspan raw b (ih fun j hj => rate j (by omega))).2
    have moved := rate b (Nat.lt_succ_self b)
    have split : exactMean maxSpan raw (b + 1) - blockShift maxSpan maxDrift raw (b + 1) =
        (exactMean maxSpan raw (b + 1) - exactMean maxSpan raw b) +
          (exactMean maxSpan raw b - blockShift maxSpan maxDrift raw (b + 1)) := by
      ring
    have triangle := abs_add_le (exactMean maxSpan raw (b + 1) - exactMean maxSpan raw b)
      (exactMean maxSpan raw b - blockShift maxSpan maxDrift raw (b + 1))
    rw [split]
    linarith

/-- Drifts that rise by 4 from block to block of two, in steps of at most 5. -/
theorem loop_tracks_rising_drift :
    let raw := fun k : Nat => (4 * (k / 2) : Int)
    let l := before 2 5 raw ((8 + 1) * UInt32.toNat 2)
    (l.tracer.drift.natAbs : Int) ≤ Int32.toInt 5 ∧
      |exactMean 2 raw 8 - l.shift| < Int32.toInt 5 + 1 := by
  intro raw
  have step : Int32.toInt 5 = 5 := by decide
  have mean (b : Nat) : exactMean 2 raw b = 4 * b := by
    have width : UInt32.toNat 2 = 2 := by decide
    have bounds : (b + 1) * 2 = b * 2 + 1 + 1 := by omega
    rw [exactMean, width, bounds, Finset.sum_Ico_succ_top (by omega),
      Finset.sum_Ico_succ_top (by omega), Finset.Ico_self, Finset.sum_empty]
    have first : ((b * 2 : Nat) : Int) / 2 = b := by omega
    have second : ((b * 2 + 1 : Nat) : Int) / 2 = b := by omega
    simp only [raw, first, second]
    push_cast
    ring
  refine @loop_tracks_limited_rate 2 5 (by decide) raw ?_ 8 fun j _ => ?_
  · rw [mean, step]
    norm_num
  · have rise : (4 : ℚ) * ((j + 1 : Nat) : ℚ) - 4 * j = 4 := by
      push_cast
      ring
    rw [mean, mean, step, rise]
    norm_num

end DriftTracing.Source.DriftLoop
