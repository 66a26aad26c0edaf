import DriftTracing.Lib.Deadband

/-!
# The drift tracer

app/drift_tracer.hpp. The template parameters are indices of the type, with the
types they have in the source. The `int64_t` members are integers: their
arithmetic is exact, and `UpdateFits` says when the source's stays in range.
-/
namespace DriftTracing.Source

structure DriftTracer (maxSpan : UInt32) (maxDrift : Int32) (clearOnUpdate : Bool := true) where
  drift : Int := 0
  overdrift : Int := 0
  driftSum : Int := 0
  driftSpan : UInt32 := 0
  deriving DecidableEq, Repr

namespace DriftTracer

variable {maxSpan : UInt32} {maxDrift : Int32} {clearOnUpdate : Bool}

def update (t : DriftTracer maxSpan maxDrift clearOnUpdate) (driftval : Int) :
    Bool × DriftTracer maxSpan maxDrift clearOnUpdate :=
  let driftSum := t.driftSum + driftval
  let driftSpan := t.driftSpan + 1
  let overdrift := if clearOnUpdate then 0 else t.overdrift
  if driftSpan < maxSpan then
    (false, { t with driftSum, driftSpan, overdrift })
  else
    let drift := driftSum.tdiv driftSpan.toNat
    if maxDrift.toInt < drift.natAbs then
      let overdrift := if drift < 0 then -maxDrift.toInt else maxDrift.toInt
      (true, { drift := drift - overdrift, overdrift, driftSum := 0, driftSpan := 0 })
    else
      (true, { drift, overdrift, driftSum := 0, driftSpan := 0 })

def forceDrift (t : DriftTracer maxSpan maxDrift clearOnUpdate) (driftval : Int) :
    DriftTracer maxSpan maxDrift clearOnUpdate :=
  { t with drift := driftval }

/-- In the range of `int64_t`. -/
def InInt64 (x : Int) : Prop := -2 ^ 63 ≤ x ∧ x < 2 ^ 63

/-- The exact result of every signed operation of `update` is an `int64_t`: the
new sum, the quotient, its absolute value and the residual. -/
structure UpdateFits (t : DriftTracer maxSpan maxDrift clearOnUpdate) (driftval : Int) : Prop where
  sum : InInt64 (t.driftSum + driftval)
  quotient : InInt64 ((t.driftSum + driftval).tdiv (t.driftSpan + 1).toNat)
  magnitude : InInt64 ((t.driftSum + driftval).tdiv (t.driftSpan + 1).toNat).natAbs
  residual : InInt64 (t.update driftval).2.drift

/-- The block stays open: nothing but the collection changes, and the overdrift
of the block before is cleared. -/
theorem update_open (t : DriftTracer maxSpan maxDrift) (driftval : Int)
    (part : t.driftSpan + 1 < maxSpan) :
    t.update driftval = (false,
      { t with
        driftSum := t.driftSum + driftval
        driftSpan := t.driftSpan + 1
        overdrift := 0 }) := by
  simp [update, part]

/-- The block closes: its truncated mean is split into the overdrift and the
residual drift, and the collection restarts. -/
theorem update_closed (t : DriftTracer maxSpan maxDrift) (driftval : Int)
    (full : ¬ t.driftSpan + 1 < maxSpan) :
    let mean := (t.driftSum + driftval).tdiv (t.driftSpan + 1).toNat
    t.update driftval = (true,
      { drift := mean - Lib.Deadband.correction maxDrift.toInt mean
        overdrift := Lib.Deadband.correction maxDrift.toInt mean
        driftSum := 0
        driftSpan := 0 }) := by
  intro mean
  simp only [update, full, if_false]
  by_cases exceeds : maxDrift.toInt < mean.natAbs
  · rw [if_pos exceeds, Lib.Deadband.correction, if_pos exceeds]
  · rw [if_neg exceeds, Lib.Deadband.correction, if_neg exceeds]
    simp [mean]

/-- A sample inside a block clears the overdrift of the block before. -/
theorem update_overdrift_open {t : DriftTracer maxSpan maxDrift} {driftval : Int}
    (inside : (t.update driftval).1 = false) : (t.update driftval).2.overdrift = 0 := by
  by_cases part : t.driftSpan + 1 < maxSpan
  · rw [update_open t driftval part]
  · rw [update_closed t driftval part] at inside
    cases inside

/-- Every update is counted: it advances the span or restarts it. -/
theorem update_driftSpan_ne (h : 1 < maxSpan) (t : DriftTracer maxSpan maxDrift)
    (driftval : Int) : (t.update driftval).2.driftSpan ≠ t.driftSpan := by
  by_cases part : t.driftSpan + 1 < maxSpan
  · rw [update_open t driftval part]
    intro same
    have : t.driftSpan + 1 = t.driftSpan := same
    have := congrArg UInt32.toNat this
    rw [UInt32.toNat_add, UInt32.toNat_one] at this
    have := t.driftSpan.toNat_lt
    omega
  · rw [update_closed t driftval part]
    intro same
    have restarted : 0 = t.driftSpan := same
    rw [← restarted, UInt32.zero_add] at part
    exact part h

end DriftTracer

end DriftTracing.Source
