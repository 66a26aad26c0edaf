import DriftTracing.Guarantees.TimeBase

/-!
# Signed arithmetic over a long uptime

The model computes with unbounded integers where the source has `int64_t`, the ticks of
`std::chrono` and `int`. In a run of less than 2^60 ns (36 years) on both sides, with any
number of timestamp wraps and of drift corrections, no exact result of `on_ackack` leaves
the source's type: the correction never goes further than the raw drifts have gone.
-/
namespace DriftTracing.Source
open DriftTracing.Lib

namespace DriftLoop

variable {maxSpan : UInt32} {maxDrift : Int32}

/-- Only the raw drifts so far bound the compensation. -/
theorem shift_bounds_so_far (hspan : 1 ≤ maxSpan.toNat) (hdrift : 0 ≤ maxDrift.toInt)
    {raw : Nat → Int} {low high : Int} (hlow : low ≤ 0) (hhigh : 0 ≤ high) {k : Nat}
    (bounds : ∀ j < k, low ≤ raw j ∧ raw j ≤ high) :
    low ≤ (before maxSpan maxDrift raw k).shift ∧
      (before maxSpan maxDrift raw k).shift ≤ high := by
  have cut := @shift_bounds maxSpan maxDrift hspan hdrift (fun j => if j < k then raw j else 0)
    low high hlow hhigh
    (fun j => by
      split
      · next hj => exact bounds j hj
      · exact ⟨hlow, hhigh⟩) k
  have same : before maxSpan maxDrift (fun j => if j < k then raw j else 0) k =
      before maxSpan maxDrift raw k :=
    Runs.before_congr _ _ fun j hj => if_pos hj
  rwa [same] at cut

end DriftLoop

namespace Tsbpd

/-- The exact results of the signed operations of a call that finds the base set, and of
reading the base for the log after it, are in the range of their types. -/
structure OnAckackFits (t : Tsbpd) (s : Sample) : Prop where
  base : DriftTracer.InInt64 (t.getPktTimeBase s.timestampUs)
  due : DriftTracer.InInt64
    (t.getPktTimeBase s.timestampUs + microsecondsFrom s.timestampUs.toNat)
  drift : DriftTracer.InInt64 (s.recvTimeStd -
    (t.getPktTimeBase s.timestampUs + microsecondsFrom s.timestampUs.toNat))
  change : InInt (s.rttUs.toInt - t.firstRttUs.toInt)
  sample : DriftTracer.InInt64 (t.driftUs s.timestampUs s.rttUs s.recvTimeStd)
  update : DriftTracer.UpdateFits t.driftTracer (t.driftUs s.timestampUs s.rttUs s.recvTimeStd)
  overdrift : DriftTracer.InInt64 (microsecondsFrom (t.applied s))
  shifted : DriftTracer.InInt64 (t.timeBase + microsecondsFrom (t.applied s))
  next : DriftTracer.InInt64 (t.onSample s).2.timeBase
  logged : DriftTracer.InInt64 ((t.onSample s).2.getPktTimeBase s.timestampUs)

/-- A run of less than 2^60 ns on this side and 2^50 us on the other, in which the
timestamps can be unwrapped and the base stays set. -/
structure Uptime (time : Nat → Nat) (rtt : Nat → Int32) (recv : Nat → Int) (n : Nat) : Prop where
  paced : Unwrap.Paced TSBPD_WRAP_PERIOD time n
  start : time 0 % period ≤ MAX_TIMESTAMP - TSBPD_WRAP_PERIOD
  set : StaysSet (sentAt time rtt recv) n
  received : ∀ k < n, 0 ≤ recv k ∧ recv k < 2 ^ 60
  sent : ∀ k < n, time k < 2 ^ 50
  rtts : ∀ k < n, -1 ≤ (rtt k).toInt ∧ (rtt k).toInt < 2 ^ 31 - 1

variable {time : Nat → Nat} {rtt : Nat → Int32} {recv : Nat → Int} {n k : Nat}

theorem Uptime.rawDrift_bounds (h : Uptime time rtt recv n) (hk : k + 1 < n) :
    -2 ^ 52 ≤ rawDrift (sentAt time rtt recv) k ∧ rawDrift (sentAt time rtt recv) k ≤ 2 ^ 52 := by
  have first : 0 < n := by omega
  have received := h.received (k + 1) hk
  have received₀ := h.received 0 first
  have sent := h.sent (k + 1) hk
  have sent₀ := h.sent 0 first
  have rtt₁ := h.rtts (k + 1) hk
  have rtt₀ := h.rtts 0 first
  have half := Int.natAbs_tdiv_le_natAbs ((rtt (k + 1)).toInt - (rtt 0).toInt) 2
  change -2 ^ 52 ≤ (before (sentAt time rtt recv) (k + 1)).driftUs (UInt32.ofNat (time (k + 1)))
    (rtt (k + 1)) (recv (k + 1)) + correction (sentAt time rtt recv) (k + 1) ∧
    (before (sentAt time rtt recv) (k + 1)).driftUs (UInt32.ofNat (time (k + 1)))
    (rtt (k + 1)) (recv (k + 1)) + correction (sentAt time rtt recv) (k + 1) ≤ 2 ^ 52
  rw [driftUs_eq h.paced h.start h.set hk]
  generalize ((rtt (k + 1)).toInt - (rtt 0).toInt).tdiv 2 = change at half ⊢
  generalize correction (sentAt time rtt recv) (k + 1) = shift
  generalize missing : (if (Unwrap.trackerAt period TSBPD_WRAP_PERIOD time k).Commits
    TSBPD_WRAP_PERIOD (time (k + 1) % period) then microsecondsFrom period else 0) = turn
  have turn_bounds : 0 ≤ turn ∧ turn ≤ microsecondsFrom period := by
    rw [← missing]
    split
    · exact ⟨by decide, le_rfl⟩
    · exact ⟨le_rfl, by decide⟩
  have near := countMicroseconds_near (recv (k + 1) - (recv 0 - microsecondsFrom (time 0) +
    microsecondsFrom shift + microsecondsFrom (time (k + 1))) + turn)
  generalize countMicroseconds _ = drift at near ⊢
  simp only [microsecondsFrom, period] at near turn_bounds
  omega

/-- The overdrifts applied never sum up to more than a raw drift. -/
theorem Uptime.correction_bounds (h : Uptime time rtt recv n) (hk : k < n) :
    -2 ^ 52 ≤ correction (sentAt time rtt recv) (k + 1) ∧
      correction (sentAt time rtt recv) (k + 1) ≤ 2 ^ 52 := by
  rw [(driftLoop_of_calls _ (h.set.mono hk)).2]
  exact DriftLoop.shift_bounds_so_far maxSamples_pos (by decide) (by decide) (by decide)
    fun j hj => h.rawDrift_bounds (by omega)

/-- Far enough inside the range of `int64_t` for what is added to a base. -/
def BaseInside (base : Int) : Prop :=
  -2 ^ 52 * 1001 ≤ base ∧ base ≤ 2 ^ 60 + 2 ^ 50 * 1000 + 2 ^ 52 * 1000

/-- A base with the turns of a send time: the correction is the rest of it, and bounded. -/
theorem Uptime.base_bounds (h : Uptime time rtt recv n) (hk : k < n) {turns : Nat}
    (past : period * turns < 2 ^ 50) :
    BaseInside (initialBase (sentAt time rtt recv) +
      microsecondsFrom (correction (sentAt time rtt recv) (k + 1)) +
      microsecondsFrom (period * turns)) := by
  have received := h.received 0 (by omega)
  have shift := h.correction_bounds hk
  have stamp := Nat.mod_lt (time 0) (show 0 < period by decide)
  have first : initialBase (sentAt time rtt recv) =
      recv 0 - microsecondsFrom (time 0 % period : Nat) := rfl
  simp only [BaseInside, first, microsecondsFrom, period] at past stamp ⊢
  omega

/-- The turns of a send time are past. -/
theorem Uptime.turns_past (h : Uptime time rtt recv n) (hk : k < n) {turns : Nat}
    (credited : turns ≤ time k / period) : period * turns < 2 ^ 50 := by
  have sent := h.sent k hk
  have now := Nat.div_add_mod (time k) period
  have := Nat.mul_le_mul_left period credited
  omega

theorem Uptime.credited_le (h : Uptime time rtt recv n) (hk : k < n) :
    (Unwrap.trackerAt period TSBPD_WRAP_PERIOD time k).turnsOf TSBPD_WRAP_PERIOD
      (time k % period) ≤ time k / period := by
  rw [h.paced.turns_eq room (clear_of_start h.start) hk]
  exact Nat.le_add_left _ _

theorem Uptime.turns_le (h : Uptime time rtt recv n) (hk : k < n) :
    (Unwrap.trackerAt period TSBPD_WRAP_PERIOD time k).turns ≤ time k / period := by
  refine le_trans ?_ (h.credited_le hk)
  unfold Unwrap.Tracker.turnsOf
  split
  · exact Nat.le_succ _
  · exact Nat.le_refl _

/-- What a call reads from the base before it corrects it. -/
theorem Uptime.read_bounds (h : Uptime time rtt recv n) (hk : k + 1 < n) :
    BaseInside ((before (sentAt time rtt recv) (k + 1)).getPktTimeBase
      (UInt32.ofNat (time (k + 1)))) := by
  have known : k < n := by omega
  have credits := h.paced.credits_before room hk (Nat.le_refl _)
    (h.paced.tracks room (clear_of_start h.start) known)
  rw [(base_follows (k := k) _ (h.set.mono hk.le)).getPktTimeBase_eq, tracker_sentAt]
  apply h.base_bounds known
  apply h.turns_past hk
  rw [credits]
  exact (Nat.le_add_left _ _).trans (Nat.le_add_right _ _)

/-- What is read from the base for the log. -/
theorem Uptime.logged_bounds (h : Uptime time rtt recv n) (hk : k < n) :
    BaseInside ((before (sentAt time rtt recv) (k + 1)).getPktTimeBase
      (UInt32.ofNat (time k))) := by
  rw [(base_follows (k := k) _ (h.set.mono hk)).getPktTimeBase_eq, tracker_sentAt]
  exact h.base_bounds hk (h.turns_past hk (h.credited_le hk))

theorem Uptime.timeBase_bounds (h : Uptime time rtt recv n) (hk : k < n) :
    BaseInside (before (sentAt time rtt recv) (k + 1)).timeBase := by
  rw [(base_follows (k := k) _ (h.set.mono hk)).base, tracker_sentAt]
  exact h.base_bounds hk (h.turns_past hk (h.turns_le hk))

/-- The base after the overdrift is added, before the turn that this call commits. -/
theorem Uptime.shifted_bounds (h : Uptime time rtt recv n) (hk : k + 1 < n) :
    BaseInside ((before (sentAt time rtt recv) (k + 1)).timeBase + microsecondsFrom
      ((before (sentAt time rtt recv) (k + 1)).applied (sentAt time rtt recv (k + 1)))) := by
  have known : k < n := by omega
  have bounds := h.base_bounds hk (h.turns_past known (h.turns_le known))
  have before := (base_follows (k := k) _ (h.set.mono hk.le)).base
  rw [correction_succ, microsecondsFrom_add] at bounds
  rw [tracker_sentAt] at before
  rw [before]
  convert bounds using 1
  omega

/-- The tracer is a fresh one that was fed with bounded samples. -/
theorem Uptime.update_fits (h : Uptime time rtt recv n) (hk : k + 1 < n) :
    let t := before (sentAt time rtt recv) (k + 1)
    DriftTracer.UpdateFits t.driftTracer
      (t.driftUs (UInt32.ofNat (time (k + 1))) (rtt (k + 1)) (recv (k + 1))) := by
  intro t
  obtain ⟨tracer, shift⟩ := driftLoop_of_calls (sentAt time rtt recv) (h.set.mono hk.le)
  have fed : t.driftUs (UInt32.ofNat (time (k + 1))) (rtt (k + 1)) (recv (k + 1)) =
      DriftLoop.sample TSBPD_DRIFT_MAX_SAMPLES TSBPD_DRIFT_MAX_VALUE
        (rawDrift (sentAt time rtt recv)) k := by
    rw [DriftLoop.sample, ← shift, rawDrift]
    exact (Int.add_sub_cancel ..).symm
  rw [fed, tracer, DriftLoop.before_tracer]
  apply DriftTracer.update_fits (B := 2 ^ 53) maxSamples_pos (by decide) _ (by decide)
  intro j hj
  have raw := h.rawDrift_bounds (k := j) (by omega)
  have correction := h.correction_bounds (k := j) (by omega)
  rw [(driftLoop_of_calls _ (h.set.mono (by omega))).2] at correction
  unfold DriftLoop.sample
  omega

theorem BaseInside.inInt64 {base : Int} (h : BaseInside base) : DriftTracer.InInt64 base := by
  unfold BaseInside at h
  unfold DriftTracer.InInt64
  omega

/-- A call that finds the base set computes in range. -/
theorem Uptime.call_fits (h : Uptime time rtt recv n) (hk : k + 1 < n) :
    OnAckackFits (before (sentAt time rtt recv) (k + 1)) (sentAt time rtt recv (k + 1)) := by
  have known : k < n := by omega
  have received := h.received (k + 1) hk
  have read := h.read_bounds hk
  have stamp := (UInt32.ofNat (time (k + 1))).toNat_lt
  have applied := correction_succ (sentAt time rtt recv) (k + 1)
  have shift := h.correction_bounds known
  have shift' := h.correction_bounds hk
  refine ⟨read.inInt64, ?due, ?drift, ?change, ?sample, h.update_fits hk, ?overdrift,
    (h.shifted_bounds hk).inInt64, (h.timeBase_bounds hk).inInt64, (h.logged_bounds hk).inInt64⟩
  case due =>
    change DriftTracer.InInt64 ((before (sentAt time rtt recv) (k + 1)).getPktTimeBase
      (UInt32.ofNat (time (k + 1))) + microsecondsFrom (UInt32.ofNat (time (k + 1))).toNat)
    simp only [BaseInside, DriftTracer.InInt64, microsecondsFrom] at read ⊢
    omega
  case drift =>
    change DriftTracer.InInt64 (recv (k + 1) -
      ((before (sentAt time rtt recv) (k + 1)).getPktTimeBase (UInt32.ofNat (time (k + 1))) +
        microsecondsFrom (UInt32.ofNat (time (k + 1))).toNat))
    simp only [BaseInside, DriftTracer.InInt64, microsecondsFrom] at read ⊢
    omega
  case change =>
    have rtt₁ := h.rtts (k + 1) hk
    have rtt₀ := h.rtts 0 (by omega)
    rw [(base_follows (k := k) _ (h.set.mono hk.le)).rtt]
    change InInt ((rtt (k + 1)).toInt - (rtt 0).toInt)
    unfold InInt
    omega
  case sample =>
    have raw := h.rawDrift_bounds hk
    dsimp only [rawDrift] at raw
    unfold DriftTracer.InInt64
    omega
  case overdrift =>
    simp only [DriftTracer.InInt64, microsecondsFrom]
    omega

/-- The call that sets the base and all later calls compute in range: over any number of
wraps and corrections no signed operation of the source overflows. -/
theorem uptime_fits (h : Uptime time rtt recv n) (calls : 0 < n) :
    DriftTracer.InInt64 (recv 0 - microsecondsFrom (sentAt time rtt recv 0).timestampUs.toNat) ∧
      ∀ k, 1 ≤ k → k < n →
        OnAckackFits (before (sentAt time rtt recv) k) (sentAt time rtt recv k) := by
  constructor
  · have base := (h.timeBase_bounds calls).inInt64
    rwa [before_succ, onSample_unset rfl] at base
  · intro k later hk
    obtain ⟨k, rfl⟩ : ∃ j, k = j + 1 := ⟨k - 1, by omega⟩
    exact h.call_fits hk

/-- A run over a wrap, with the send times and reception times of `wrapRun`. -/
theorem uptime_fits_over_wrap :
    DriftTracer.InInt64 (recvTimes (period - 50000000) 0 - microsecondsFrom
        (wrapRun 50000000 0).timestampUs.toNat) ∧
      ∀ k, 1 ≤ k → k < 6 →
        OnAckackFits (before (wrapRun 50000000) k) (wrapRun 50000000 k) :=
  uptime_fits
    { paced := sendTimes_paced _ 6
      start := by decide
      set := by unfold StaysSet; decide +kernel
      received := by decide +kernel
      sent := by decide
      rtts := by decide } (by decide)

end Tsbpd

end DriftTracing.Source
