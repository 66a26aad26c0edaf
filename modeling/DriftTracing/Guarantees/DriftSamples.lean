import DriftTracing.Guarantees.Rounds

/-!
# Drift samples of runs without a timestamp wrap

The overdrift that the tracer reports after a call is the one the call added to the
base. While no timestamp comes near the wrap, every base read in a run is therefore the
initial base and the overdrifts logged so far. With RTT compensation a sample and these
overdrifts add up to the drift of the clocks: the delays of the path cancel, up to half
the change of the difference between its two directions.
-/
namespace DriftTracing.Source
open DriftTracing.Lib

namespace Tsbpd

variable {samples : Nat → Sample} {k n : Nat}

/-- What a call adds to the base is what the tracer reports after it. -/
theorem overdrift_after_call (set : StaysSet samples (k + 1)) :
    (before samples (k + 1)).overdrift = (before samples k).applied (samples k) := by
  cases k with
  | zero =>
    have call := onSample_unset (t := before samples 0) rfl (samples 0)
    rw [before_succ, call]
    rfl
  | succ k =>
    have based := set (k + 1) (by omega) (by omega)
    rw [overdrift, before_succ, onSample, onAckack_driftTracer based, applied, if_neg based]
    dsimp only
    split
    · rfl
    · next inside => exact DriftTracer.update_overdrift_open (by simpa using inside)

/-- The overdrifts reported by the first `n` calls add up to the correction of the base. -/
theorem sum_overdrift (set : StaysSet samples n) :
    ∑ j ∈ Finset.range n, (before samples (j + 1)).overdrift = correction samples n := by
  apply Finset.sum_congr rfl
  intro j hj
  rw [Finset.mem_range] at hj
  exact overdrift_after_call (set.mono hj)

/-- The timestamps of the first `n` calls are clear of the wrap. -/
def NoWrap (samples : Nat → Sample) (n : Nat) : Prop :=
  ∀ k < n, (samples k).timestampUs.toNat ≤ MAX_TIMESTAMP - TSBPD_WRAP_PERIOD

/-- Without a wrap the base of every state after the first call is the corrected initial one. -/
theorem getPktTimeBase_noWrap (clear : NoWrap samples (k + 1)) (set : StaysSet samples (k + 1))
    (ts : UInt32) :
    (before samples (k + 1)).getPktTimeBase ts =
      initialBase samples + microsecondsFrom (correction samples (k + 1)) := by
  have settled : tracker samples k = {} :=
    Unwrap.Tracker.after_eq_start fun j hj => clear j (by omega)
  rw [(base_follows samples set).getPktTimeBase_eq, settled]
  simp [Unwrap.Tracker.turnsOf]

/-- The sample of call `k + 1`, measured against the corrected initial base. -/
theorem driftUs_noWrap (clear : NoWrap samples (k + 1)) (set : StaysSet samples (k + 2)) :
    ((before samples (k + 1)).onSample (samples (k + 1))).1 =
      countMicroseconds ((samples (k + 1)).recvTimeStd - (initialBase samples +
        microsecondsFrom (correction samples (k + 1)) +
        microsecondsFrom (samples (k + 1)).timestampUs.toNat)) -
      ((samples (k + 1)).rttUs.toInt - (samples 0).rttUs.toInt).tdiv 2 := by
  have started := set.mono (Nat.le_succ _)
  have follows := base_follows samples started
  rw [(onSample_set (set (k + 1) (by omega) (by omega)) _ _ follows.flag).1, driftUs,
    getPktTimeBase_noWrap clear started, follows.rtt]

/-- The calls of the first block of samples apply no overdrift. -/
theorem correction_first_block (set : StaysSet samples (k + 1)) (short : k < 1000) :
    correction samples (k + 1) = 0 := by
  have start : k - k % TSBPD_DRIFT_MAX_SAMPLES.toNat ≤ 0 := by
    rw [maxSamples_toNat, Nat.mod_eq_of_lt short, Nat.sub_self]
  rw [(driftLoop_of_calls samples set).2,
    ← DriftLoop.shift_in_block maxSamples_pos (rawDrift samples) k start (Nat.zero_le k)]
  rfl

/-- The first base is in use until the first block of samples is complete. -/
theorem staysSet_first_block (clear : NoWrap samples n) (short : n ≤ 1001)
    (nonzero : initialBase samples ≠ epoch) : StaysSet samples n := by
  induction n with
  | zero => exact fun k _ high => absurd high (Nat.not_lt_zero k)
  | succ n ih =>
    have earlier := ih (fun k hk => clear k (by omega)) (by omega)
    intro k low high
    rcases Nat.lt_or_eq_of_le (Nat.lt_succ_iff.mp high) with less | rfl
    · exact earlier k low less
    · obtain ⟨j, rfl⟩ : ∃ j, k = j + 1 := ⟨k - 1, by omega⟩
      have settled : tracker samples j = {} :=
        Unwrap.Tracker.after_eq_start fun i hi => clear i (by omega)
      have base := (base_follows samples earlier).base
      rw [correction_first_block earlier (by omega), settled] at base
      simpa [base] using nonzero

end Tsbpd

/-- Halving loses at most one half. -/
theorem two_mul_tdiv_two (x : Int) :
    |2 * x.tdiv 2 - x| ≤ 1 ∧ (x % 2 = 0 → 2 * x.tdiv 2 = x) := by
  have positive : (0 : Int) < 2 := by decide
  have split := Int.tmod_add_tdiv_mul x 2
  have low := Int.lt_tmod_of_pos x positive
  have high := Int.tmod_lt_of_pos x positive
  rw [abs_le]
  omega

namespace Globals

/-- The path and the clocks at each ACKACK, in whole microseconds: the delay of the ACK
and of the ACKACK, and how far the local clock is ahead of the peer's. -/
structure DelayModel where
  forward : Nat → Int
  backward : Nat → Int
  offset : Nat → Int

variable {cfg : Config} {g : Globals} {rounds : Nat → Round} {n k : Nat}

/-- The first `n` rounds of a compensated run without wraps go over the path: every
ACKACK finds its record, and is received the delays later. -/
structure DelayModel.Describes (d : DelayModel) (cfg : Config) (g : Globals)
    (rounds : Nat → Round) (n : Nat) : Prop where
  compensated : cfg.compensateRtt = true
  unset : g.tsbpd = {}
  bounds : g.path.ackRecords.InBounds
  received : ∀ k < n, (rounds k).recvTimeStd =
    microsecondsFrom ((rounds k).ackpkt.timestamp.toNat + d.offset k + d.backward k)
  matched : ∀ k < n, ∃ e newer, (beforeRound cfg g rounds k).found (rounds k) = some (e, newer) ∧
    (rounds k).recvTimeStd - e.sendtimeStd = microsecondsFrom (d.forward k + d.backward k)
  rttFits : ∀ k < n, InInt (d.forward k + d.backward k)
  noWrap : Tsbpd.NoWrap (samples cfg g rounds) n
  set : Tsbpd.StaysSet (samples cfg g rounds) n

/-- The RTT passed to the time base is the sum of the two delays. -/
theorem DelayModel.Describes.rttUs {d : DelayModel} (h : d.Describes cfg g rounds n)
    (hk : k < n) :
    (samples cfg g rounds k).rttUs.toInt = d.forward k + d.backward k := by
  obtain ⟨e, newer, hit, elapsed⟩ := h.matched k hk
  have rtt := (@receive_found cfg _ (beforeRound_inBounds h.bounds k) _ _ _ hit).1
  rw [elapsed, countMicroseconds_microsecondsFrom] at rtt
  rw [samples_rttUs_compensated h.compensated, row, rtt]
  exact toInt_toInt (h.rttFits k hk).1 (h.rttFits k hk).2

/-- The overdrifts that the first `n` rows show. -/
def loggedOverdrift (cfg : Config) (g : Globals) (rounds : Nat → Round) (n : Nat) : Int :=
  ∑ j ∈ Finset.range n, (row cfg g rounds j).overdrift

theorem loggedOverdrift_eq (unset : g.tsbpd = {})
    (set : Tsbpd.StaysSet (samples cfg g rounds) n) :
    loggedOverdrift cfg g rounds n = Tsbpd.correction (samples cfg g rounds) n := by
  rw [← Tsbpd.sum_overdrift set]
  apply Finset.sum_congr rfl
  intro j _
  exact (row_tsbpd unset j).2.2.1

/-- The sample of a later round and the overdrifts before it: the change of the offset
and of the backward delay, less half the change of the RTT. -/
theorem DelayModel.Describes.sample {d : DelayModel} (h : d.Describes cfg g rounds n)
    (hk : k + 1 < n) :
    (row cfg g rounds (k + 1)).driftSampleStd + loggedOverdrift cfg g rounds (k + 1) =
      (d.offset (k + 1) + d.backward (k + 1) - (d.offset 0 + d.backward 0)) -
        ((d.forward (k + 1) + d.backward (k + 1)) - (d.forward 0 + d.backward 0)).tdiv 2 := by
  have first : 0 < n := by omega
  have value := Tsbpd.driftUs_noWrap (fun j hj => h.noWrap j (by omega))
    (h.set.mono (m := k + 2) (by omega))
  rw [(row_tsbpd h.unset (k + 1)).1, loggedOverdrift_eq h.unset (h.set.mono (by omega)), value,
    h.rttUs hk, h.rttUs first, Tsbpd.initialBase, samples_recvTimeStd, samples_recvTimeStd,
    samples_timestampUs, samples_timestampUs, h.received _ hk, h.received 0 first]
  generalize Tsbpd.correction (samples cfg g rounds) (k + 1) = S
  generalize ((rounds (k + 1)).ackpkt.timestamp.toNat : Int) = ts
  generalize ((rounds 0).ackpkt.timestamp.toNat : Int) = ts0
  have drift : microsecondsFrom (ts + d.offset (k + 1) + d.backward (k + 1)) -
      (microsecondsFrom (ts0 + d.offset 0 + d.backward 0) - microsecondsFrom ts0 +
        microsecondsFrom S + microsecondsFrom ts) =
      microsecondsFrom (d.offset (k + 1) + d.backward (k + 1) -
        (d.offset 0 + d.backward 0) - S) := by
    simp only [microsecondsFrom]
    omega
  rw [drift, countMicroseconds_microsecondsFrom]
  omega

/-- With RTT compensation a sample and the overdrifts applied before it give the drift of
the clocks, up to half the change of the difference between the two delays and half a
microsecond. Where the two directions have equal delays they give it exactly. -/
theorem compensation_cancels_delays (cfg : Config) (g : Globals) (rounds : Nat → Round) (n : Nat)
    (d : DelayModel) (h : d.Describes cfg g rounds n) (k : Nat) (later : 1 ≤ k) (hk : k < n) :
    let corrected := (row cfg g rounds k).driftSampleStd + loggedOverdrift cfg g rounds k
    |2 * corrected - 2 * (d.offset k - d.offset 0) -
        ((d.backward k - d.forward k) - (d.backward 0 - d.forward 0))| ≤ 1 ∧
      (d.forward k = d.backward k → d.forward 0 = d.backward 0 →
        corrected = d.offset k - d.offset 0) := by
  intro corrected
  obtain ⟨k, rfl⟩ : ∃ j, k = j + 1 := ⟨k - 1, by omega⟩
  have sample : corrected = _ := h.sample hk
  obtain ⟨near, even⟩ := two_mul_tdiv_two
    ((d.forward (k + 1) + d.backward (k + 1)) - (d.forward 0 + d.backward 0))
  rw [abs_le] at near ⊢
  constructor
  · omega
  · intro equal equal0
    have := even (by omega)
    omega

/-- Rounds over a path: the records are as old as the two delays. -/
def DelayModel.run (d : DelayModel) (timestamp : Nat → UInt32) : Nat → Round :=
  ownRounds timestamp
    (fun k => microsecondsFrom ((timestamp k).toNat + d.offset k - d.forward k))
    (fun k => microsecondsFrom ((timestamp k).toNat + d.offset k + d.backward k))

/-- Any delays are those of a run, up to the first complete block of samples. -/
theorem DelayModel.describes_run (d : DelayModel) (timestamp : Nat → UInt32) {n : Nat}
    (rttFits : ∀ k < n, InInt (d.forward k + d.backward k))
    (clear : ∀ k < n, (timestamp k).toNat ≤ MAX_TIMESTAMP - TSBPD_WRAP_PERIOD) (short : n ≤ 1001)
    (nonzero : d.offset 0 + d.backward 0 ≠ 0) :
    d.Describes { compensateRtt := true } {} (d.run timestamp) n := by
  have stamp (k : Nat) :
      (samples { compensateRtt := true } {} (d.run timestamp) k).timestampUs = timestamp k :=
    ownRounds_timestamp k
  have noWrap : Tsbpd.NoWrap (samples { compensateRtt := true } {} (d.run timestamp)) n := by
    intro k hk
    rw [stamp]
    exact clear k hk
  refine ⟨rfl, rfl, (fresh_window (g := {}) rfl).1, fun k _ => ?_, fun k _ => ?_, rttFits, noWrap,
    Tsbpd.staysSet_first_block noWrap short ?_⟩
  · have number : (d.run timestamp k).ackpkt.timestamp = timestamp k :=
      ackackOf_timestamp 1 (timestamp k)
    rw [number]
    rfl
  · refine ⟨_, _, found_ownRounds (g := {}) rfl k, ?_⟩
    change microsecondsFrom _ - microsecondsFrom _ = _
    simp only [microsecondsFrom]
    omega
  · rw [Tsbpd.initialBase, stamp]
    change microsecondsFrom ((timestamp 0).toNat + d.offset 0 + d.backward 0) - _ ≠ 0
    simp only [microsecondsFrom]
    omega

/-- Unequal delays that change, while the local clock gains 100 microseconds a round. -/
def jitter : DelayModel where
  forward k := 700 + 40 * (k % 3)
  backward k := 300 + 25 * (k % 4)
  offset k := 100 * k

theorem compensation_cancels_jitter :
    let timestamp := fun k : Nat => UInt32.ofNat (20000 * k)
    let cfg : Config := { compensateRtt := true }
    let corrected := (row cfg {} (jitter.run timestamp) 7).driftSampleStd +
      loggedOverdrift cfg {} (jitter.run timestamp) 7
    |2 * corrected - 2 * (jitter.offset 7 - jitter.offset 0) -
        ((jitter.backward 7 - jitter.forward 7) - (jitter.backward 0 - jitter.forward 0))| ≤ 1 ∧
      (jitter.forward 7 = jitter.backward 7 → jitter.forward 0 = jitter.backward 0 →
        corrected = jitter.offset 7 - jitter.offset 0) := by
  intro timestamp cfg
  have described : jitter.Describes cfg {} (jitter.run timestamp) 8 := by
    apply jitter.describes_run timestamp _ _ (by decide) (by decide)
    · intro k _
      simp only [InInt, jitter]
      omega
    · intro k hk
      have small : 20000 * k ≤ MAX_TIMESTAMP - TSBPD_WRAP_PERIOD := by
        simp only [MAX_TIMESTAMP, TSBPD_WRAP_PERIOD]
        omega
      exact (Nat.mod_le _ _).trans small
  exact compensation_cancels_delays cfg {} (jitter.run timestamp) 8 jitter described 7
    (by decide) (by decide)

end Globals

end DriftTracing.Source
