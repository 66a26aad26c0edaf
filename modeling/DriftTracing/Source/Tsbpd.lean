import DriftTracing.Source.Clock
import DriftTracing.Source.DriftTracer

/-!
# The time base for packet delivery

app/tsbpd.hpp and app/tsbpd.cpp. The functions return the member values they
change; log lines are left out. `int` subtraction is exact, as in `Clock`.
-/
namespace DriftTracing.Source

/-- 30 seconds (in usec). -/
def TSBPD_WRAP_PERIOD : Nat := 30 * 1000000

/-- Full 32 bit (01h11m35s). -/
def MAX_TIMESTAMP : Nat := 0xFFFFFFFF

/-- Max drift (usec) above which the time base is adjusted. -/
def TSBPD_DRIFT_MAX_VALUE : Int32 := 5000

/-- Number of samples to perform drift calculation and compensation. -/
def TSBPD_DRIFT_MAX_SAMPLES : UInt32 := 1000

theorem maxValue_toInt : TSBPD_DRIFT_MAX_VALUE.toInt = 5000 := rfl

theorem maxSamples_toNat : TSBPD_DRIFT_MAX_SAMPLES.toNat = 1000 := rfl

theorem maxSamples_pos : 1 ≤ TSBPD_DRIFT_MAX_SAMPLES.toNat := by decide

structure Tsbpd where
  driftTracer : DriftTracer TSBPD_DRIFT_MAX_SAMPLES TSBPD_DRIFT_MAX_VALUE := {}
  timeBase : Int := epoch
  wrapCheck : Bool := false
  firstRttUs : Int32 := 0
  deriving DecidableEq, Repr

namespace Tsbpd

def updateTsbPdTimeBase (t : Tsbpd) (usPktTimestamp : UInt32) : Tsbpd :=
  if t.wrapCheck then
    if TSBPD_WRAP_PERIOD ≤ usPktTimestamp.toNat ∧
        usPktTimestamp.toNat ≤ TSBPD_WRAP_PERIOD * 2 then
      -- exiting the wrap check period
      { t with
        wrapCheck := false
        timeBase := t.timeBase + microsecondsFrom (MAX_TIMESTAMP + 1) }
    else t
  else if MAX_TIMESTAMP - TSBPD_WRAP_PERIOD < usPktTimestamp.toNat then
    -- approaching the wrap around point
    { t with wrapCheck := true }
  else t

def getPktTimeBase (t : Tsbpd) (timestampUs : UInt32) : Int :=
  let carryoverUs : Int :=
    if t.wrapCheck ∧ timestampUs.toNat < TSBPD_WRAP_PERIOD then MAX_TIMESTAMP + 1 else 0
  t.timeBase + microsecondsFrom carryoverUs

/-- The sample the drift tracer is fed with once the time base is set. -/
def driftUs (t : Tsbpd) (timestampUs : UInt32) (rttUs : Int32) (recvTimeStd : Int) : Int :=
  let drift := recvTimeStd - (t.getPktTimeBase timestampUs + microsecondsFrom timestampUs.toNat)
  countMicroseconds drift - (rttUs.toInt - t.firstRttUs.toInt).tdiv 2

def onAckack (t : Tsbpd) (timestampUs : UInt32) (rttUs : Int32) (recvTimeStd : Int) :
    Int × Tsbpd :=
  if t.timeBase = epoch then
    (0, { t with
      timeBase := recvTimeStd - microsecondsFrom timestampUs.toNat
      firstRttUs := rttUs })
  else
    let driftUs := t.driftUs timestampUs rttUs recvTimeStd
    let updated := t.driftTracer.update driftUs
    let t := { t with driftTracer := updated.2 }
    let t :=
      -- the tracer's overdrift is reset with the next incoming sample
      if updated.1 then
        { t with timeBase := t.timeBase + microsecondsFrom t.driftTracer.overdrift }
      else t
    -- shift if the wrapping period ends
    (driftUs, t.updateTsbPdTimeBase timestampUs)

def drift (t : Tsbpd) : Int := t.driftTracer.drift

def overdrift (t : Tsbpd) : Int := t.driftTracer.overdrift

@[simp] theorem updateTsbPdTimeBase_driftTracer (t : Tsbpd) (ts : UInt32) :
    (t.updateTsbPdTimeBase ts).driftTracer = t.driftTracer := by
  unfold updateTsbPdTimeBase
  split
  · split
    · rfl
    · rfl
  · split
    · rfl
    · rfl

/-- The call that sets the base. -/
theorem onAckack_unset {t : Tsbpd} (unset : t.timeBase = epoch) (timestampUs : UInt32)
    (rttUs : Int32) (recvTimeStd : Int) :
    t.onAckack timestampUs rttUs recvTimeStd = (0,
      { t with
        timeBase := recvTimeStd - microsecondsFrom timestampUs.toNat
        firstRttUs := rttUs }) := by
  rw [onAckack, if_pos unset]

theorem onAckack_driftTracer {t : Tsbpd} (set : t.timeBase ≠ epoch) (timestampUs : UInt32)
    (rttUs : Int32) (recvTimeStd : Int) :
    (t.onAckack timestampUs rttUs recvTimeStd).2.driftTracer =
      (t.driftTracer.update (t.driftUs timestampUs rttUs recvTimeStd)).2 := by
  rw [onAckack, if_neg set]
  dsimp only
  rw [updateTsbPdTimeBase_driftTracer]
  split
  · rfl
  · rfl

end Tsbpd

end DriftTracing.Source
