import DriftTracing.Guarantees.DriftBlocks

/-!
# The drift correction loop

`tsbpd::on_ackack` adds every overdrift the tracer reports to the time base its
next samples are measured against. `DriftLoop` is this feedback alone: a tracer
and the compensation applied so far, fed with raw drifts against the initial base.
The compensation never leaves the range of the raw drifts, and under a constant
drift it moves there in equal steps, one a block, and stays.
-/
namespace DriftTracing.Source
open DriftTracing.Lib

structure DriftLoop (maxSpan : UInt32) (maxDrift : Int32) where
  tracer : DriftTracer maxSpan maxDrift := {}
  shift : Int := 0

namespace DriftLoop

variable {maxSpan : UInt32} {maxDrift : Int32}

/-- Measure a raw drift against the compensated base, and apply the overdrift of
a completed block. -/
def feed (l : DriftLoop maxSpan maxDrift) (raw : Int) : Bool × DriftLoop maxSpan maxDrift :=
  let r := l.tracer.update (raw - l.shift)
  (r.1, { tracer := r.2, shift := if r.1 then l.shift + r.2.overdrift else l.shift })

/-- The loop before raw drift number `k`. -/
def before (maxSpan : UInt32) (maxDrift : Int32) (raw : Nat → Int) (k : Nat) :
    DriftLoop maxSpan maxDrift :=
  Runs.before feed {} raw k

theorem before_succ (raw : Nat → Int) (k : Nat) :
    before maxSpan maxDrift raw (k + 1) = ((before maxSpan maxDrift raw k).feed (raw k)).2 := rfl

/-- The samples a tracer inside the loop receives. -/
def sample (maxSpan : UInt32) (maxDrift : Int32) (raw : Nat → Int) (k : Nat) : Int :=
  raw k - (before maxSpan maxDrift raw k).shift

/-- The tracer of the loop is a fresh tracer fed with the compensated samples. -/
theorem before_tracer (raw : Nat → Int) (k : Nat) :
    (before maxSpan maxDrift raw k).tracer =
      DriftTracer.after maxSpan maxDrift (sample maxSpan maxDrift raw) k := by
  induction k with
  | zero => rfl
  | succ k ih =>
    rw [before_succ]
    change ((before maxSpan maxDrift raw k).tracer.update _).2 = _
    rw [ih]
    rfl

/-- What the compensation becomes is read off the tracer's answer. -/
theorem before_shift (raw : Nat → Int) (k : Nat) :
    (before maxSpan maxDrift raw (k + 1)).shift =
      let r := (DriftTracer.after maxSpan maxDrift (sample maxSpan maxDrift raw) k).update
        (sample maxSpan maxDrift raw k)
      if r.1 then (before maxSpan maxDrift raw k).shift + r.2.overdrift
      else (before maxSpan maxDrift raw k).shift := by
  rw [← before_tracer]
  rfl

/-- Inside a block the compensation does not move. -/
theorem shift_open (hspan : 1 ≤ maxSpan.toNat) (raw : Nat → Int) {k : Nat}
    (part : ¬ maxSpan.toNat ∣ k + 1) :
    (before maxSpan maxDrift raw (k + 1)).shift = (before maxSpan maxDrift raw k).shift := by
  rw [before_shift, (DriftTracer.collects_after hspan _ k).update_open hspan part]
  rfl

/-- The end of a block corrects by its truncated mean. -/
theorem shift_closed (hspan : 1 ≤ maxSpan.toNat) (raw : Nat → Int) {k : Nat}
    (closed : maxSpan.toNat ∣ k + 1) :
    (before maxSpan maxDrift raw (k + 1)).shift =
      (before maxSpan maxDrift raw k).shift +
        Deadband.correction maxDrift.toInt
          (DriftTracer.blockMean maxSpan (sample maxSpan maxDrift raw) (k + 1)) := by
  rw [before_shift, (DriftTracer.collects_after hspan _ k).update_closed hspan closed]
  rfl

/-- During the block that ends with raw drift `k` the compensation was constant. -/
theorem shift_in_block (hspan : 1 ≤ maxSpan.toNat) (raw : Nat → Int) (k : Nat) {i : Nat}
    (low : k - k % maxSpan.toNat ≤ i) (high : i ≤ k) :
    (before maxSpan maxDrift raw i).shift = (before maxSpan maxDrift raw k).shift := by
  induction k with
  | zero => rw [Nat.le_zero.mp high]
  | succ k ih =>
    rcases Nat.eq_or_lt_of_le high with rfl | below
    · rfl
    · have mod := Blocks.succ_mod_eq maxSpan.toNat k hspan
      by_cases full : k % maxSpan.toNat + 1 = maxSpan.toNat
      · rw [if_pos full] at mod
        omega
      · rw [if_neg full] at mod
        rw [shift_open hspan raw (mt (Blocks.dvd_succ_iff _ _ hspan).mp full)]
        exact ih (by omega) (by omega)

/-- Raw drifts between two integers have their compensated block mean between
the same integers, compensated. -/
theorem blockMean_bounds (hspan : 1 ≤ maxSpan.toNat) {raw : Nat → Int} {low high : Int}
    (bounds : ∀ k, low ≤ raw k ∧ raw k ≤ high) {k : Nat} (closed : maxSpan.toNat ∣ k + 1) :
    let shift := (before maxSpan maxDrift raw k).shift
    let mean := DriftTracer.blockMean maxSpan (sample maxSpan maxDrift raw) (k + 1)
    low - shift ≤ mean ∧ mean ≤ high - shift := by
  intro shift mean
  have full := (Blocks.dvd_succ_iff _ _ hspan).mp closed
  have under := Nat.mod_le k maxSpan.toNat
  have count : (k + 1) - (k + 1 - maxSpan.toNat) = maxSpan.toNat := by omega
  have between : ∀ i ∈ Finset.Ico (k + 1 - maxSpan.toNat) (k + 1),
      low - shift ≤ sample maxSpan maxDrift raw i ∧
        sample maxSpan maxDrift raw i ≤ high - shift := by
    intro i hi
    rw [Finset.mem_Ico] at hi
    have same := @shift_in_block maxSpan maxDrift hspan raw k i (by omega) (by omega)
    have := bounds i
    unfold sample
    rw [same]
    exact ⟨Int.sub_le_sub_right this.1 _, Int.sub_le_sub_right this.2 _⟩
  have lower := Finset.card_nsmul_le_sum _ _ _ fun i hi => (between i hi).1
  have upper := Finset.sum_le_card_nsmul _ _ _ fun i hi => (between i hi).2
  rw [Nat.card_Ico, count, nsmul_eq_mul, Int.mul_comm] at lower upper
  exact Blocks.tdiv_bounds (by omega) lower upper

/-- One raw drift keeps the compensation between the bounds of all of them: a
correction goes at most as far as the truncated mean. -/
theorem shift_bounds_step (hspan : 1 ≤ maxSpan.toNat) (hdrift : 0 ≤ maxDrift.toInt)
    {raw : Nat → Int} {low high : Int} (bounds : ∀ k, low ≤ raw k ∧ raw k ≤ high) {k : Nat}
    (inside : low ≤ (before maxSpan maxDrift raw k).shift ∧
      (before maxSpan maxDrift raw k).shift ≤ high) :
    low ≤ (before maxSpan maxDrift raw (k + 1)).shift ∧
      (before maxSpan maxDrift raw (k + 1)).shift ≤ high := by
  by_cases closed : maxSpan.toNat ∣ k + 1
  · rw [shift_closed hspan raw closed]
    have mean := @blockMean_bounds maxSpan maxDrift hspan raw low high bounds k closed
    dsimp only at mean
    generalize DriftTracer.blockMean maxSpan (sample maxSpan maxDrift raw) (k + 1) = q at mean ⊢
    obtain ⟨pos, neg⟩ := Deadband.correction_between (x := q) hdrift
    rcases Int.le_total 0 q with h | h
    · have := pos h
      omega
    · have := neg h
      omega
  · rw [shift_open hspan raw closed]
    exact inside

theorem shift_bounds (hspan : 1 ≤ maxSpan.toNat) (hdrift : 0 ≤ maxDrift.toInt) {raw : Nat → Int}
    {low high : Int} (hlow : low ≤ 0) (hhigh : 0 ≤ high)
    (bounds : ∀ k, low ≤ raw k ∧ raw k ≤ high) (k : Nat) :
    low ≤ (before maxSpan maxDrift raw k).shift ∧
      (before maxSpan maxDrift raw k).shift ≤ high := by
  induction k with
  | zero => exact ⟨hlow, hhigh⟩
  | succ k ih => exact shift_bounds_step hspan hdrift bounds ih

/-- Under a constant raw drift the remaining deviation is a dead-band residual,
iterated once a block. -/
theorem shift_of_constant (hspan : 1 ≤ maxSpan.toNat) (drift : Int) (k : Nat) :
    drift - (before maxSpan maxDrift (fun _ => drift) k).shift =
      (Deadband.residual maxDrift.toInt)^[k / maxSpan.toNat] drift := by
  induction k with
  | zero => simp [before, Runs.before]
  | succ k ih =>
    by_cases closed : maxSpan.toNat ∣ k + 1
    · have mean := @blockMean_bounds maxSpan maxDrift hspan (fun _ => drift) drift drift
        (fun _ => ⟨Int.le_refl _, Int.le_refl _⟩) k closed
      rw [shift_closed hspan _ closed, Int.le_antisymm mean.2 mean.1,
        Nat.succ_div_of_dvd closed, Function.iterate_succ_apply', ← ih, Deadband.residual]
      omega
    · rw [shift_open hspan _ closed, Nat.succ_div_of_not_dvd closed]
      exact ih

/-- The closed form: one step of `MAX_DRIFT` a block toward the drift, until it
lies inside the band. -/
theorem shift_of_constant_eq (hspan : 1 ≤ maxSpan.toNat) (hdrift : 0 < maxDrift.toInt)
    (drift : Int) (k : Nat) :
    (before maxSpan maxDrift (fun _ => drift) k).shift =
      drift.sign * ((min (k / maxSpan.toNat) (Deadband.steps maxDrift.toInt drift) : Nat) *
        maxDrift.toInt) := by
  have left := @shift_of_constant maxSpan maxDrift hspan drift k
  rw [Deadband.iterate_residual hdrift] at left
  omega

/-- No step, and no block without one, leads away from a constant drift. -/
theorem shift_of_constant_approaches (hspan : 1 ≤ maxSpan.toNat) (hdrift : 0 < maxDrift.toInt)
    (drift : Int) (k : Nat) :
    (drift - (before maxSpan maxDrift (fun _ => drift) (k + 1)).shift).natAbs ≤
      (drift - (before maxSpan maxDrift (fun _ => drift) k).shift).natAbs := by
  rw [shift_of_constant hspan, shift_of_constant hspan]
  by_cases closed : maxSpan.toNat ∣ k + 1
  · rw [Nat.succ_div_of_dvd closed, Function.iterate_succ_apply']
    exact Deadband.residual_natAbs_le hdrift.le
  · rw [Nat.succ_div_of_not_dvd closed]

/-- The compensation stays between the bounds of the raw drifts. Under a constant
raw drift it starts from zero and moves by one `MAX_DRIFT` toward the drift at the
end of each of the first `n` blocks, and only there; it never moves again, and what
it leaves uncompensated is at most `MAX_DRIFT`. -/
theorem loop_stays_and_settles (hspan : 1 ≤ maxSpan.toNat) (hdrift : 0 < maxDrift.toInt) :
    (∀ (low high : Int) (raw : Nat → Int), low ≤ 0 → 0 ≤ high →
      (∀ k, low ≤ raw k ∧ raw k ≤ high) → ∀ k,
        low ≤ (before maxSpan maxDrift raw k).shift ∧
          (before maxSpan maxDrift raw k).shift ≤ high) ∧
    (∀ drift : Int,
      let shift := fun k => (before maxSpan maxDrift (fun _ => drift) k).shift
      let n := ⌈(((drift.natAbs : Int) - maxDrift.toInt : Int) : ℚ) / maxDrift.toInt⌉₊
      shift 0 = 0 ∧
      (∀ k, shift (k + 1) =
        if maxSpan.toNat ∣ k + 1 ∧ k / maxSpan.toNat < n then
          shift k + drift.sign * maxDrift.toInt
        else shift k) ∧
      (∀ k, (drift - shift (k + 1)).natAbs ≤ (drift - shift k).natAbs) ∧
      (∀ k, n * maxSpan.toNat ≤ k →
        shift k = drift.sign * (n * maxDrift.toInt) ∧
          ((drift - shift k).natAbs : Int) ≤ maxDrift.toInt)) := by
  refine ⟨fun low high raw hlow hhigh bounds k =>
    shift_bounds hspan hdrift.le hlow hhigh bounds k, fun drift => ?_⟩
  intro shift n
  have closed_form : ∀ k, shift k =
      drift.sign * ((min (k / maxSpan.toNat) n : Nat) * maxDrift.toInt) :=
    fun k => shift_of_constant_eq hspan hdrift drift k
  refine ⟨rfl, fun k => ?_, fun k => shift_of_constant_approaches hspan hdrift drift k,
    fun k late => ?_⟩
  · rw [closed_form, closed_form]
    by_cases last : maxSpan.toNat ∣ k + 1
    · rw [Nat.succ_div_of_dvd last]
      by_cases moving : k / maxSpan.toNat < n
      · rw [if_pos ⟨last, moving⟩, Nat.min_eq_left moving, Nat.min_eq_left moving.le,
          Nat.cast_succ]
        ring
      · rw [if_neg (fun h => moving h.2), Nat.min_eq_right (by omega), Nat.min_eq_right (by omega)]
    · rw [Nat.succ_div_of_not_dvd last, if_neg (fun h => last h.1)]
  · have settled : n ≤ k / maxSpan.toNat := (Nat.le_div_iff_mul_le hspan).mpr late
    rw [closed_form, Nat.min_eq_right settled]
    refine ⟨rfl, ?_⟩
    obtain ⟨low, high⟩ := Deadband.steps_reach hdrift drift
    change n * maxDrift.toInt ≤ _ at low
    change _ ≤ n * maxDrift.toInt + _ at high
    generalize (n : Int) * maxDrift.toInt = travelled at low high ⊢
    rcases Int.lt_trichotomy drift 0 with neg | rfl | pos
    · rw [Int.sign_eq_neg_one_of_neg neg]
      omega
    · rw [Int.sign_zero]
      omega
    · rw [Int.sign_eq_one_of_pos pos]
      omega

/-- A drift of 23 is followed in four steps of 5, one every second sample. -/
theorem loop_settles_on_twenty_three :
    (0 ≤ (before 2 5 (fun _ => 23) 8).shift ∧ (before 2 5 (fun _ => 23) 8).shift ≤ 23) ∧
      ((23 - (before 2 5 (fun _ => 23) 8).shift).natAbs : Int) ≤ 5 := by
  obtain ⟨stays, settles⟩ := @loop_stays_and_settles 2 5 (by decide) (by decide)
  refine ⟨stays 0 23 (fun _ => 23) (by decide) (by decide) (fun _ => by decide) 8, ?_⟩
  refine ((settles 23).2.2.2 8 ?_).2
  have steps : ⌈((((23 : Int).natAbs : Int) - Int32.toInt 5 : Int) : ℚ) / Int32.toInt 5⌉₊ ≤ 4 := by
    apply Nat.ceil_le.mpr
    have : Int32.toInt 5 = 5 := by decide
    norm_num [this]
  exact Nat.mul_le_mul_right 2 steps

end DriftLoop

end DriftTracing.Source
