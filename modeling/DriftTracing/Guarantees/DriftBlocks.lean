import DriftTracing.Lib.Blocks
import DriftTracing.Lib.Runs
import DriftTracing.Source.DriftTracer

/-!
# The drift tracer averages consecutive disjoint blocks

A fresh tracer is fed a stream of samples. After `n` updates its collection is
exactly the open block, and an update returns true exactly when it closes a block;
the truncated mean of that block is then the sum of `drift()` and `overdrift()`.
-/
namespace DriftTracing.Source.DriftTracer
open DriftTracing.Lib

variable {maxSpan : UInt32} {maxDrift : Int32}

/-- The tracer after `n` updates with the samples of a stream. -/
def after (maxSpan : UInt32) (maxDrift : Int32) (v : Nat → Int) (n : Nat) :
    DriftTracer maxSpan maxDrift :=
  Runs.before update {} v n

/-- The truncated mean of the block that `n` updates closed. -/
def blockMean (maxSpan : UInt32) (v : Nat → Int) (n : Nat) : Int :=
  (Blocks.lastSum maxSpan.toNat v n).tdiv maxSpan.toNat

/-- The collection holds exactly the samples of the open block. -/
structure Collects (v : Nat → Int) (n : Nat) (t : DriftTracer maxSpan maxDrift) : Prop where
  span : t.driftSpan.toNat = n % maxSpan.toNat
  sum : t.driftSum = Blocks.openSum maxSpan.toNat v n

/-- Counting one sample more does not wrap: the span stays below `MAX_SPAN`. -/
theorem Collects.span_succ {v : Nat → Int} {n : Nat} {t : DriftTracer maxSpan maxDrift}
    (h : Collects v n t) (hspan : 1 ≤ maxSpan.toNat) :
    (t.driftSpan + 1).toNat = n % maxSpan.toNat + 1 := by
  have below := Nat.mod_lt n hspan
  have width := maxSpan.toNat_lt
  rw [UInt32.toNat_add, h.span, UInt32.toNat_one, Nat.mod_eq_of_lt (by omega)]

theorem Collects.open_iff {v : Nat → Int} {n : Nat} {t : DriftTracer maxSpan maxDrift}
    (h : Collects v n t) (hspan : 1 ≤ maxSpan.toNat) :
    t.driftSpan + 1 < maxSpan ↔ ¬ maxSpan.toNat ∣ n + 1 := by
  have below := Nat.mod_lt n hspan
  rw [UInt32.lt_iff_toNat_lt, h.span_succ hspan, Blocks.dvd_succ_iff _ _ hspan]
  omega

/-- A sample inside a block. -/
theorem Collects.update_open {v : Nat → Int} {n : Nat} {t : DriftTracer maxSpan maxDrift}
    (h : Collects v n t) (hspan : 1 ≤ maxSpan.toNat) (part : ¬ maxSpan.toNat ∣ n + 1) :
    t.update (v n) = (false,
      { t with
        driftSum := Blocks.openSum maxSpan.toNat v (n + 1)
        driftSpan := t.driftSpan + 1
        overdrift := 0 }) := by
  rw [DriftTracer.update_open t (v n) ((h.open_iff hspan).mpr part),
    Blocks.openSum_succ v part hspan, h.sum]

/-- The last sample of a block. -/
theorem Collects.update_closed {v : Nat → Int} {n : Nat} {t : DriftTracer maxSpan maxDrift}
    (h : Collects v n t) (hspan : 1 ≤ maxSpan.toNat) (closed : maxSpan.toNat ∣ n + 1) :
    let mean := blockMean maxSpan v (n + 1)
    t.update (v n) = (true,
      { drift := mean - Deadband.correction maxDrift.toInt mean
        overdrift := Deadband.correction maxDrift.toInt mean
        driftSum := 0
        driftSpan := 0 }) := by
  have full : ¬ t.driftSpan + 1 < maxSpan := fun part => (h.open_iff hspan).mp part closed
  have span : (t.driftSpan + 1).toNat = maxSpan.toNat := by
    rw [h.span_succ hspan]
    exact (Blocks.dvd_succ_iff _ _ hspan).mp closed
  have sum : t.driftSum + v n = Blocks.lastSum maxSpan.toNat v (n + 1) := by
    rw [Blocks.lastSum_succ v closed hspan, h.sum]
  have spec := DriftTracer.update_closed t (v n) full
  rw [span, sum] at spec
  exact spec

theorem Collects.step {v : Nat → Int} {n : Nat} {t : DriftTracer maxSpan maxDrift}
    (h : Collects v n t) (hspan : 1 ≤ maxSpan.toNat) : Collects v (n + 1) (t.update (v n)).2 := by
  have below := Nat.mod_lt n hspan
  by_cases closed : maxSpan.toNat ∣ n + 1
  · rw [h.update_closed hspan closed]
    exact ⟨(Nat.mod_eq_zero_of_dvd closed).symm, (Blocks.openSum_of_dvd v closed).symm⟩
  · rw [h.update_open hspan closed]
    refine ⟨?_, rfl⟩
    have part := mt (Blocks.dvd_succ_iff _ _ hspan).mpr closed
    rw [h.span_succ hspan, Blocks.succ_mod_eq _ _ hspan, if_neg part]

/-- No sample is lost or counted twice, however long the stream. -/
theorem collects_after (hspan : 1 ≤ maxSpan.toNat) (v : Nat → Int) (n : Nat) :
    Collects v n (after maxSpan maxDrift v n) := by
  induction n with
  | zero => exact ⟨(Nat.zero_mod _).symm, (Blocks.openSum_of_dvd v (dvd_zero _)).symm⟩
  | succ n ih => exact ih.step hspan

/-- Between two closed blocks the published drift does not move. -/
theorem drift_since_closed (hspan : 1 ≤ maxSpan.toNat) (v : Nat → Int) (n : Nat) :
    (after maxSpan maxDrift v n).drift =
      (after maxSpan maxDrift v (n - n % maxSpan.toNat)).drift := by
  induction n with
  | zero => rfl
  | succ n ih =>
    by_cases closed : maxSpan.toNat ∣ n + 1
    · rw [Nat.mod_eq_zero_of_dvd closed, Nat.sub_zero]
    · have part := mt (Blocks.dvd_succ_iff _ _ hspan).mpr closed
      have start : n + 1 - (n + 1) % maxSpan.toNat = n - n % maxSpan.toNat := by
        rw [Blocks.succ_mod_eq _ _ hspan, if_neg part]
        omega
      rw [start, ← ih]
      change ((after maxSpan maxDrift v n).update (v n)).2.drift = _
      rw [(collects_after hspan v n).update_open hspan closed]

/-- The samples an update averages are at most `MAX_SPAN` many, so the exact sum
is below `MAX_SPAN * B`. -/
theorem Collects.sum_le {v : Nat → Int} {n B : Nat} {t : DriftTracer maxSpan maxDrift}
    (h : Collects v n t) (hspan : 1 ≤ maxSpan.toNat) (bound : ∀ k ≤ n, (v k).natAbs ≤ B) :
    (t.driftSum + v n).natAbs ≤ maxSpan.toNat * B := by
  have below := Nat.mod_lt n hspan
  have under := Nat.mod_le n maxSpan.toNat
  rw [h.sum, Blocks.openSum, ← Finset.sum_Ico_succ_top (Nat.sub_le n _)]
  exact Blocks.natAbs_sum_Ico_le _ (fun k hk => bound k (by omega)) (by omega)

theorem Collects.update_drift_le {v : Nat → Int} {n B : Nat} {t : DriftTracer maxSpan maxDrift}
    (h : Collects v n t) (hspan : 1 ≤ maxSpan.toNat) (hdrift : 0 ≤ maxDrift.toInt)
    (bound : ∀ k ≤ n, (v k).natAbs ≤ B) (before : t.drift.natAbs ≤ maxSpan.toNat * B) :
    (t.update (v n)).2.drift.natAbs ≤ maxSpan.toNat * B := by
  by_cases closed : maxSpan.toNat ∣ n + 1
  · rw [h.update_closed hspan closed]
    have residual := Deadband.residual_natAbs_le (x := blockMean maxSpan v (n + 1)) hdrift
    have quotient : (blockMean maxSpan v (n + 1)).natAbs ≤
        (Blocks.lastSum maxSpan.toNat v (n + 1)).natAbs := Int.natAbs_tdiv_le_natAbs _ _
    have sum := h.sum_le hspan bound
    rw [h.sum, ← Blocks.lastSum_succ v closed hspan] at sum
    dsimp only
    omega
  · rw [h.update_open hspan closed]
    exact before

theorem drift_after_le (hspan : 1 ≤ maxSpan.toNat) (hdrift : 0 ≤ maxDrift.toInt) {v : Nat → Int}
    {n B : Nat} (bound : ∀ k < n, (v k).natAbs ≤ B) :
    (after maxSpan maxDrift v n).drift.natAbs ≤ maxSpan.toNat * B := by
  induction n with
  | zero => exact Nat.zero_le _
  | succ n ih =>
    exact (collects_after hspan v n).update_drift_le hspan hdrift
      (fun k hk => bound k (by omega)) (ih fun k hk => bound k (by omega))

/-- Under `MAX_SPAN * B < 2^63` no signed operation of an update overflows. -/
theorem update_fits (hspan : 1 ≤ maxSpan.toNat) (hdrift : 0 ≤ maxDrift.toInt) {v : Nat → Int}
    {n B : Nat} (bound : ∀ k ≤ n, (v k).natAbs ≤ B) (fits : maxSpan.toNat * B < 2 ^ 63) :
    UpdateFits (after maxSpan maxDrift v n) (v n) := by
  have collects := @collects_after maxSpan maxDrift hspan v n
  have sum := collects.sum_le hspan bound
  have drift := collects.update_drift_le hspan hdrift bound
    (drift_after_le hspan hdrift fun k hk => bound k (by omega))
  have quotient := Int.natAbs_tdiv_le_natAbs ((after maxSpan maxDrift v n).driftSum + v n)
    ((after maxSpan maxDrift v n).driftSpan + 1).toNat
  have small {x : Int} (h : x.natAbs ≤ maxSpan.toNat * B) : InInt64 x := by
    unfold InInt64
    omega
  exact ⟨small sum, small (by omega), small (by rw [Int.natAbs_natCast]; omega), small drift⟩

/-- Update number `n + 1` of a fresh tracer returns true exactly when `MAX_SPAN`
divides `n + 1`. The collection is the open block, nothing overflows, and on a
true return `drift()` and `overdrift()` split the truncated mean of exactly the
last `MAX_SPAN` samples; a false return publishes nothing new. -/
theorem update_averages_blocks (hspan : 1 ≤ maxSpan.toNat) (hdrift : 0 ≤ maxDrift.toInt) (B : Nat)
    (fits : maxSpan.toNat * B < 2 ^ 63) (v : Nat → Int) (n : Nat)
    (bound : ∀ k ≤ n, (v k).natAbs ≤ B) :
    let t := after maxSpan maxDrift v n
    let r := t.update (v n)
    let q := (∑ i ∈ Finset.Ico (n + 1 - maxSpan.toNat) (n + 1), v i).tdiv maxSpan.toNat
    (r.1 = true ↔ maxSpan.toNat ∣ n + 1) ∧
      r.2.driftSum = ∑ i ∈ Finset.Ico (n + 1 - (n + 1) % maxSpan.toNat) (n + 1), v i ∧
      r.2.driftSpan.toNat = (n + 1) % maxSpan.toNat ∧
      UpdateFits t (v n) ∧
      (r.1 = true →
        r.2.drift + r.2.overdrift = q ∧
        ((q.natAbs : Int) ≤ maxDrift.toInt → r.2.overdrift = 0) ∧
        (maxDrift.toInt < q.natAbs → r.2.overdrift = q.sign * maxDrift.toInt) ∧
        0 ≤ q * r.2.drift) ∧
      (r.1 = false →
        r.2.overdrift = 0 ∧
        r.2.drift = (after maxSpan maxDrift v (n + 1 - (n + 1) % maxSpan.toNat)).drift) := by
  intro t r q
  have collects : Collects v n t := collects_after hspan v n
  have next := collects.step hspan
  have fitting := update_fits hspan hdrift bound fits
  by_cases closed : maxSpan.toNat ∣ n + 1
  · have spec : r = _ := collects.update_closed hspan closed
    refine ⟨by simp [spec, closed], next.sum, next.span, fitting, fun _ => ?_, by simp [spec]⟩
    rw [spec]
    exact ⟨by simp [q, blockMean, Blocks.lastSum], Deadband.correction_inside,
      fun exceeds => Deadband.correction_outside exceeds hdrift, Deadband.residual_sign hdrift⟩
  · have spec : r = _ := collects.update_open hspan closed
    refine ⟨by simp [spec, closed], next.sum, next.span, fitting, by simp [spec], fun _ => ?_⟩
    exact ⟨by rw [spec], drift_since_closed hspan v (n + 1)⟩

/-- The sixth update closes the second block of three, with the negative sum -33. -/
theorem update_averages_second_block :
    let v := fun k : Nat => if k < 3 then (7 : Int) else -15 + k % 3 * 4
    let t := after 3 5 v 5
    let r := t.update (v 5)
    let q := (∑ i ∈ Finset.Ico (5 + 1 - 3) (5 + 1), v i).tdiv 3
    (r.1 = true ↔ 3 ∣ 5 + 1) ∧
      r.2.driftSum = ∑ i ∈ Finset.Ico (5 + 1 - (5 + 1) % 3) (5 + 1), v i ∧
      r.2.driftSpan.toNat = (5 + 1) % 3 ∧
      UpdateFits t (v 5) ∧
      (r.1 = true →
        r.2.drift + r.2.overdrift = q ∧
        ((q.natAbs : Int) ≤ 5 → r.2.overdrift = 0) ∧
        (5 < (q.natAbs : Int) → r.2.overdrift = q.sign * 5) ∧
        0 ≤ q * r.2.drift) ∧
      (r.1 = false →
        r.2.overdrift = 0 ∧ r.2.drift = (after 3 5 v (5 + 1 - (5 + 1) % 3)).drift) :=
  @update_averages_blocks 3 5 (by decide) (by decide) 15 (by decide) _ 5 (by decide)

end DriftTracing.Source.DriftTracer
