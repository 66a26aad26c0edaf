import DriftTracing.Guarantees.DriftLoop
import DriftTracing.Lib.Unwrap
import DriftTracing.Source.Tsbpd

/-!
# The time base over timestamp wraps

`tsbpd` keeps its wrap flag and its committed turns as `Unwrap.Tracker` does, and
its base is the initial base, plus the overdrifts applied, plus the committed turns
(`base_follows`). This holds for every sequence of calls. With the peer's true send
times behind the timestamps, what a call reads from the base is then a question
about the tracker alone: the base read after a call is right over any number of
wraps, the one read inside a call misses the turn that this call commits.
-/
namespace DriftTracing.Source.Tsbpd
open DriftTracing.Lib

/-- The arguments of one `on_ackack` call. -/
structure Sample where
  timestampUs : UInt32
  rttUs : Int32
  recvTimeStd : Int
  deriving DecidableEq, Repr

/-- The modulus of the timestamps, `uint64_t(MAX_TIMESTAMP) + 1`. -/
abbrev period : Nat := 2 ^ 32

def onSample (t : Tsbpd) (s : Sample) : Int × Tsbpd :=
  t.onAckack s.timestampUs s.rttUs s.recvTimeStd

/-- The state before call number `k`. -/
def before (samples : Nat → Sample) (k : Nat) : Tsbpd :=
  Runs.before onSample {} samples k

theorem before_succ (samples : Nat → Sample) (k : Nat) :
    before samples (k + 1) = ((before samples k).onSample (samples k)).2 := rfl

/-- The overdrift a call adds to the base; the call that sets the base adds none. -/
def applied (t : Tsbpd) (s : Sample) : Int :=
  if t.timeBase = epoch then 0
  else
    let updated := t.driftTracer.update (t.driftUs s.timestampUs s.rttUs s.recvTimeStd)
    if updated.1 then updated.2.overdrift else 0

/-- The sum of the overdrifts applied by the calls before call number `k`. -/
def correction (samples : Nat → Sample) (k : Nat) : Int :=
  ∑ j ∈ Finset.range k, (before samples j).applied (samples j)

/-- The base as the first call sets it. -/
def initialBase (samples : Nat → Sample) : Int :=
  (samples 0).recvTimeStd - microsecondsFrom (samples 0).timestampUs.toNat

/-- The tracker of the timestamps, after calls `1` to `k`. -/
def tracker (samples : Nat → Sample) (k : Nat) : Unwrap.Tracker :=
  Unwrap.Tracker.after period TSBPD_WRAP_PERIOD (fun j => (samples j).timestampUs.toNat) k

/-- From the first call on, the base of the first `n` states is not the clock epoch. -/
def StaysSet (samples : Nat → Sample) (n : Nat) : Prop :=
  ∀ k, 1 ≤ k → k < n → (before samples k).timeBase ≠ epoch

theorem StaysSet.mono {samples : Nat → Sample} {m n : Nat} (set : StaysSet samples n)
    (h : m ≤ n) : StaysSet samples m :=
  fun k low high => set k low (by omega)

theorem updateTsbPdTimeBase_tracks (t : Tsbpd) (ts : UInt32) (tr : Unwrap.Tracker)
    (flag : tr.checking = t.wrapCheck) :
    (t.updateTsbPdTimeBase ts).wrapCheck =
        (tr.observe period TSBPD_WRAP_PERIOD ts.toNat).checking ∧
      (t.updateTsbPdTimeBase ts).timeBase - microsecondsFrom
          (period * (tr.observe period TSBPD_WRAP_PERIOD ts.toNat).turns) =
        t.timeBase - microsecondsFrom (period * tr.turns) ∧
      (t.updateTsbPdTimeBase ts).driftTracer = t.driftTracer ∧
      (t.updateTsbPdTimeBase ts).firstRttUs = t.firstRttUs := by
  unfold updateTsbPdTimeBase Unwrap.Tracker.observe
  rw [flag, Nat.mul_comm TSBPD_WRAP_PERIOD 2]
  split
  · split
    · refine ⟨rfl, ?_, rfl, rfl⟩
      simp only [microsecondsFrom, MAX_TIMESTAMP, period]
      omega
    · exact ⟨flag.symm, rfl, rfl, rfl⟩
  · by_cases arms : MAX_TIMESTAMP - TSBPD_WRAP_PERIOD < ts.toNat
    · have arms' : period - 1 - TSBPD_WRAP_PERIOD < ts.toNat := arms
      rw [if_pos arms, if_pos arms']
      exact ⟨rfl, rfl, rfl, rfl⟩
    · have arms' : ¬ period - 1 - TSBPD_WRAP_PERIOD < ts.toNat := arms
      rw [if_neg arms, if_neg arms']
      exact ⟨flag.symm, rfl, rfl, rfl⟩

theorem getPktTimeBase_tracks (t : Tsbpd) (ts : UInt32) (tr : Unwrap.Tracker)
    (flag : tr.checking = t.wrapCheck) :
    t.getPktTimeBase ts = t.timeBase - microsecondsFrom (period * tr.turns) +
      microsecondsFrom (period * tr.turnsOf TSBPD_WRAP_PERIOD ts.toNat) := by
  unfold getPktTimeBase Unwrap.Tracker.turnsOf
  rw [flag]
  split
  · simp only [microsecondsFrom, MAX_TIMESTAMP, period]
    omega
  · simp only [microsecondsFrom]
    omega

/-- The call that sets the base. -/
theorem onSample_unset {t : Tsbpd} (unset : t.timeBase = epoch) (s : Sample) :
    t.onSample s = (0,
      { t with
        timeBase := s.recvTimeStd - microsecondsFrom s.timestampUs.toNat
        firstRttUs := s.rttUs }) :=
  onAckack_unset unset ..

/-- Every later call: the sample it returns is fed to the tracer, the overdrift is
applied, and the timestamp is observed. -/
theorem onSample_set {t : Tsbpd} (set : t.timeBase ≠ epoch) (s : Sample) (tr : Unwrap.Tracker)
    (flag : tr.checking = t.wrapCheck) :
    let value := t.driftUs s.timestampUs s.rttUs s.recvTimeStd
    let observed := tr.observe period TSBPD_WRAP_PERIOD s.timestampUs.toNat
    (t.onSample s).1 = value ∧
      (t.onSample s).2.driftTracer = (t.driftTracer.update value).2 ∧
      (t.onSample s).2.firstRttUs = t.firstRttUs ∧
      (t.onSample s).2.wrapCheck = observed.checking ∧
      (t.onSample s).2.timeBase - microsecondsFrom (period * observed.turns) =
        t.timeBase - microsecondsFrom (period * tr.turns) + microsecondsFrom (t.applied s) := by
  intro value observed
  rw [onSample, onAckack, if_neg set, applied, if_neg set]
  dsimp only
  split
  · next updated =>
    obtain ⟨flag', base, tracer, rtt⟩ := updateTsbPdTimeBase_tracks
      { t with
        driftTracer := (t.driftTracer.update value).2
        timeBase := t.timeBase + microsecondsFrom (t.driftTracer.update value).2.overdrift }
      s.timestampUs tr flag
    refine ⟨rfl, tracer, rtt, flag', ?_⟩
    rw [base]
    dsimp only [value]
    omega
  · next updated =>
    obtain ⟨flag', base, tracer, rtt⟩ := updateTsbPdTimeBase_tracks
      { t with driftTracer := (t.driftTracer.update value).2 } s.timestampUs tr flag
    refine ⟨rfl, tracer, rtt, flag', ?_⟩
    rw [base, microsecondsFrom_zero, Int.add_zero]

/-- After call number `k` the wrap flag is the tracker's, and the base is the
initial one with the overdrifts and the committed turns added. -/
structure Follows (samples : Nat → Sample) (k : Nat) (t : Tsbpd) : Prop where
  flag : (tracker samples k).checking = t.wrapCheck
  base : t.timeBase = initialBase samples + microsecondsFrom (correction samples (k + 1)) +
    microsecondsFrom (period * (tracker samples k).turns)
  rtt : t.firstRttUs = (samples 0).rttUs

theorem correction_succ (samples : Nat → Sample) (k : Nat) :
    correction samples (k + 1) =
      correction samples k + (before samples k).applied (samples k) :=
  Finset.sum_range_succ _ _

theorem correction_one (samples : Nat → Sample) : correction samples 1 = 0 := by
  rw [correction_succ]
  rfl

theorem follows_first (samples : Nat → Sample) : Follows samples 0 (before samples 1) := by
  have call := onSample_unset (t := before samples 0) rfl (samples 0)
  rw [before_succ, call]
  refine ⟨rfl, ?_, rfl⟩
  rw [correction_one]
  simp [initialBase, tracker, Unwrap.Tracker.after]

/-- Every sequence of calls, with any timestamps in any order. -/
theorem base_follows (samples : Nat → Sample) {k : Nat} (set : StaysSet samples (k + 1)) :
    Follows samples k (before samples (k + 1)) := by
  induction k with
  | zero => exact follows_first samples
  | succ k ih =>
    have h := ih (set.mono (by omega))
    obtain ⟨-, -, rtt, flag, base⟩ :=
      onSample_set (set (k + 1) (by omega) (by omega)) (samples (k + 1)) _ h.flag
    rw [← before_succ] at rtt flag base
    have observed : tracker samples (k + 1) = (tracker samples k).observe period
        TSBPD_WRAP_PERIOD (samples (k + 1)).timestampUs.toNat := rfl
    rw [← observed] at flag base
    refine ⟨flag.symm, ?_, rtt.trans h.rtt⟩
    have := h.base
    rw [correction_succ samples (k + 1), microsecondsFrom_add]
    omega

/-- What a state after call `k` reads for a timestamp: the initial base, the
overdrifts, and the turns the tracker credits to the timestamp. -/
theorem Follows.getPktTimeBase_eq {samples : Nat → Sample} {k : Nat} {t : Tsbpd}
    (h : Follows samples k t) (ts : UInt32) :
    t.getPktTimeBase ts = initialBase samples + microsecondsFrom (correction samples (k + 1)) +
      microsecondsFrom (period * (tracker samples k).turnsOf TSBPD_WRAP_PERIOD ts.toNat) := by
  rw [getPktTimeBase_tracks t ts _ h.flag, h.base]
  omega

/-- The drift that call `k + 1` measures, with the overdrifts applied before it added
back. -/
def rawDrift (samples : Nat → Sample) (k : Nat) : Int :=
  let s := samples (k + 1)
  (before samples (k + 1)).driftUs s.timestampUs s.rttUs s.recvTimeStd +
    correction samples (k + 1)

/-- The calls behind the first one run the drift correction loop over the raw drifts:
its tracer is theirs, and its compensation the sum of the overdrifts. -/
theorem driftLoop_of_calls (samples : Nat → Sample) {k : Nat} (set : StaysSet samples (k + 1)) :
    (before samples (k + 1)).driftTracer =
        (DriftLoop.before TSBPD_DRIFT_MAX_SAMPLES TSBPD_DRIFT_MAX_VALUE
          (rawDrift samples) k).tracer ∧
      correction samples (k + 1) =
        (DriftLoop.before TSBPD_DRIFT_MAX_SAMPLES TSBPD_DRIFT_MAX_VALUE
          (rawDrift samples) k).shift := by
  induction k with
  | zero =>
    have call := onSample_unset (t := before samples 0) rfl (samples 0)
    rw [before_succ, call]
    exact ⟨rfl, correction_one samples⟩
  | succ k ih =>
    obtain ⟨tracer, shift⟩ := ih (set.mono (by omega))
    have set' := set (k + 1) (by omega) (by omega)
    have fed : rawDrift samples k - (DriftLoop.before TSBPD_DRIFT_MAX_SAMPLES
        TSBPD_DRIFT_MAX_VALUE (rawDrift samples) k).shift =
          (before samples (k + 1)).driftUs (samples (k + 1)).timestampUs
            (samples (k + 1)).rttUs (samples (k + 1)).recvTimeStd := by
      rw [← shift, rawDrift]
      exact Int.add_sub_cancel ..
    rw [before_succ, DriftLoop.before_succ, DriftLoop.feed, fed, ← tracer]
    refine ⟨onAckack_driftTracer set' .., ?_⟩
    rw [correction_succ, applied, if_neg set', shift]
    dsimp only
    split
    · rfl
    · exact Int.add_zero _

/-! ## True send times

The peer stamps its datagrams with its send time in microseconds, modulo 2^32. -/

/-- The calls of a run: send times, RTTs and reception times. -/
def sentAt (time : Nat → Nat) (rtt : Nat → Int32) (recv : Nat → Int) (k : Nat) : Sample :=
  ⟨UInt32.ofNat (time k), rtt k, recv k⟩

variable {time : Nat → Nat} {rtt : Nat → Int32} {recv : Nat → Int} {n k : Nat}

theorem tracker_sentAt : tracker (sentAt time rtt recv) k =
    Unwrap.trackerAt period TSBPD_WRAP_PERIOD time k := rfl

theorem room : 4 * TSBPD_WRAP_PERIOD < period := by decide

/-- The base that belongs to the send time of call `k`, with the overdrifts of the
calls before `m` applied. -/
def trueBase (time : Nat → Nat) (rtt : Nat → Int32) (recv : Nat → Int) (m k : Nat) : Int :=
  recv 0 - microsecondsFrom (time 0 % period : Nat) +
    microsecondsFrom (correction (sentAt time rtt recv) m) +
    microsecondsFrom (period * ((time k / period : Nat) - (time 0 / period : Nat) : Int))

/-- The base read after a call is right exactly when the tracker credits the
timestamp the turns of its send time. -/
theorem base_after_call_iff (set : StaysSet (sentAt time rtt recv) (k + 1)) :
    (before (sentAt time rtt recv) (k + 1)).getPktTimeBase (UInt32.ofNat (time k)) =
        trueBase time rtt recv (k + 1) k ↔
      time k / period = time 0 / period +
        (Unwrap.trackerAt period TSBPD_WRAP_PERIOD time k).turnsOf TSBPD_WRAP_PERIOD
          (time k % period) := by
  rw [(base_follows _ set).getPktTimeBase_eq, tracker_sentAt, trueBase, initialBase]
  change recv 0 - microsecondsFrom (time 0 % period : Nat) + _ +
      microsecondsFrom (period * Unwrap.Tracker.turnsOf _ _ (time k % period)) = _ ↔ _
  constructor
  · intro equal
    have := microsecondsFrom_injective (Int.add_left_cancel equal)
    simp only [period] at this ⊢
    omega
  · intro turns
    congr 2
    simp only [period] at turns ⊢
    omega

theorem clear_of_start (start : time 0 % period ≤ MAX_TIMESTAMP - TSBPD_WRAP_PERIOD) :
    time 0 % period + TSBPD_WRAP_PERIOD < period := by
  have : TSBPD_WRAP_PERIOD < MAX_TIMESTAMP := by decide
  have : MAX_TIMESTAMP + 1 = period := by decide
  omega

/-- Over any number of wraps and with any drift corrections in between, the base
logged after a call is the initial base, the overdrifts applied so far, and one
2^32 us for each turn between the first send time and this one. -/
theorem base_after_call_correct (paced : Unwrap.Paced TSBPD_WRAP_PERIOD time n)
    (start : time 0 % period ≤ MAX_TIMESTAMP - TSBPD_WRAP_PERIOD)
    (set : StaysSet (sentAt time rtt recv) n) (hk : k < n) :
    (before (sentAt time rtt recv) (k + 1)).getPktTimeBase (UInt32.ofNat (time k)) =
      trueBase time rtt recv (k + 1) k := by
  apply (base_after_call_iff (set.mono hk)).mpr
  exact paced.turns_eq room (clear_of_start start) hk

/-- Send times 25 seconds apart, and when they are received. -/
def sendTimes (first k : Nat) : Nat := first + 25000000 * k

def recvTimes (first k : Nat) : Int := microsecondsFrom (sendTimes first k + 5000000 : Nat)

theorem sendTimes_paced (first n : Nat) : Unwrap.Paced TSBPD_WRAP_PERIOD (sendTimes first) n :=
  Unwrap.Paced.of_forward _ _ (by decide) (fun k => by simp only [sendTimes]; omega)
    (fun k => by simp only [sendTimes, TSBPD_WRAP_PERIOD]; omega)

/-- The calls of a run that starts `early` microseconds before a wrap. -/
def wrapRun (early : Nat) : Nat → Sample :=
  sentAt (sendTimes (period - early)) (fun _ => 40000) (recvTimes (period - early))

theorem base_after_call_correct_at_commit :
    (before (wrapRun 50000000) 5).getPktTimeBase
        (UInt32.ofNat (sendTimes (period - 50000000) 4)) =
      trueBase (sendTimes (period - 50000000)) (fun _ => 40000)
        (recvTimes (period - 50000000)) 5 4 :=
  base_after_call_correct (sendTimes_paced _ 6) (by decide)
    (show StaysSet _ 6 by unfold StaysSet; decide +kernel) (by decide)

/-- A run that starts in the last 30 seconds before a wrap reads the right base
after every call exactly when its second send time, if any, lies before that wrap
as well: the call that sets the base does not arm the wrap check. -/
theorem base_after_late_start_iff (paced : Unwrap.Paced TSBPD_WRAP_PERIOD time n)
    (late : MAX_TIMESTAMP - TSBPD_WRAP_PERIOD < time 0 % period)
    (set : StaysSet (sentAt time rtt recv) n) :
    (∀ k < n, (before (sentAt time rtt recv) (k + 1)).getPktTimeBase (UInt32.ofNat (time k)) =
        trueBase time rtt recv (k + 1) k) ↔
      n ≤ 1 ∨ time 1 / period = time 0 / period := by
  have late' : period ≤ time 0 % period + TSBPD_WRAP_PERIOD := by
    have : MAX_TIMESTAMP + 1 = period := by decide
    omega
  rw [← paced.turns_eq_iff_of_late_start room late']
  have each (k : Nat) (hk : k < n) := @base_after_call_iff time rtt recv k (set.mono hk)
  exact ⟨fun h k hk => (each k hk).mp (h k hk), fun h k hk => (each k hk).mpr (h k hk)⟩

theorem base_after_late_start_within_turn :
    (∀ k < 3, (before (wrapRun 26000000) (k + 1)).getPktTimeBase
        (UInt32.ofNat (sendTimes (period - 26000000) k)) =
      trueBase (sendTimes (period - 26000000)) (fun _ => 40000)
        (recvTimes (period - 26000000)) (k + 1) k) ↔
      3 ≤ 1 ∨ sendTimes (period - 26000000) 1 / period = sendTimes (period - 26000000) 0 / period :=
  base_after_late_start_iff (sendTimes_paced _ 3) (by decide)
    (show StaysSet _ 3 by unfold StaysSet; decide +kernel)

/-- A run that starts one second before a wrap: after its second call the base is
one turn short. -/
theorem base_short_after_late_start :
    Unwrap.Paced TSBPD_WRAP_PERIOD (sendTimes (period - 1000000)) 2 ∧
      MAX_TIMESTAMP - TSBPD_WRAP_PERIOD < sendTimes (period - 1000000) 0 % period ∧
      StaysSet (wrapRun 1000000) 2 ∧
      (before (wrapRun 1000000) 2).getPktTimeBase
          (UInt32.ofNat (sendTimes (period - 1000000) 1)) ≠
        trueBase (sendTimes (period - 1000000)) (fun _ => 40000)
          (recvTimes (period - 1000000)) 2 1 :=
  ⟨sendTimes_paced _ 2, by decide, by unfold StaysSet; decide +kernel, by decide +kernel⟩

/-- The drift of call `k` against the true send times: the reception time less the
initial base moved by the overdrifts applied before, in whole microseconds, less
half the change of the RTT. -/
def trueSample (time : Nat → Nat) (rtt : Nat → Int32) (recv : Nat → Int) (k : Nat) : Int :=
  countMicroseconds (recv k - (recv 0 - microsecondsFrom (time 0) +
    microsecondsFrom (correction (sentAt time rtt recv) k) + microsecondsFrom (time k))) -
    ((rtt k).toInt - (rtt 0).toInt).tdiv 2

/-- The call returns the true drift sample and feeds the tracer with it. -/
def SampleCorrect (time : Nat → Nat) (rtt : Nat → Int32) (recv : Nat → Int) (k : Nat) : Prop :=
  let t := before (sentAt time rtt recv) k
  let r := t.onSample (sentAt time rtt recv k)
  r.1 = trueSample time rtt recv k ∧
    r.2.driftTracer = (t.driftTracer.update (trueSample time rtt recv k)).2

/-- The sample measured inside call `k + 1`: the turn that the call commits is
missing from the base it reads. -/
theorem driftUs_eq (paced : Unwrap.Paced TSBPD_WRAP_PERIOD time n)
    (start : time 0 % period ≤ MAX_TIMESTAMP - TSBPD_WRAP_PERIOD)
    (set : StaysSet (sentAt time rtt recv) n) (hk : k + 1 < n) :
    (before (sentAt time rtt recv) (k + 1)).driftUs (UInt32.ofNat (time (k + 1)))
        (rtt (k + 1)) (recv (k + 1)) =
      countMicroseconds (recv (k + 1) - (recv 0 - microsecondsFrom (time 0) +
          microsecondsFrom (correction (sentAt time rtt recv) (k + 1)) +
          microsecondsFrom (time (k + 1))) +
        if (Unwrap.trackerAt period TSBPD_WRAP_PERIOD time k).Commits TSBPD_WRAP_PERIOD
            (time (k + 1) % period) then microsecondsFrom period else 0) -
      ((rtt (k + 1)).toInt - (rtt 0).toInt).tdiv 2 := by
  have follows := base_follows (k := k) _ (set.mono hk.le)
  have known : k < n := by omega
  have turns := paced.credits_before room hk (Nat.le_refl _)
    (paced.tracks room (clear_of_start start) known)
  have now := Nat.div_add_mod (time (k + 1)) period
  have first := Nat.div_add_mod (time 0) period
  rw [driftUs, follows.rtt, follows.getPktTimeBase_eq, tracker_sentAt]
  change countMicroseconds (recv (k + 1) - (initialBase _ + _ +
    microsecondsFrom (period * Unwrap.Tracker.turnsOf _ _ (time (k + 1) % period)) +
    microsecondsFrom (time (k + 1) % period : Nat))) - _ = _
  have base : initialBase (sentAt time rtt recv) =
      recv 0 - microsecondsFrom (time 0 % period : Nat) := rfl
  rw [base]
  congr 2
  by_cases commits : (Unwrap.trackerAt period TSBPD_WRAP_PERIOD time k).Commits
      TSBPD_WRAP_PERIOD (time (k + 1) % period)
  · rw [if_pos commits] at turns ⊢
    simp only [microsecondsFrom, period] at turns now first ⊢
    omega
  · rw [if_neg commits] at turns ⊢
    simp only [microsecondsFrom, period] at turns now first ⊢
    omega

/-- Call `k` returns the true drift sample, and feeds the tracer with it, exactly
when its send time is not the first at least 30 seconds into a later turn. -/
theorem sample_correct_iff (paced : Unwrap.Paced TSBPD_WRAP_PERIOD time n)
    (start : time 0 % period ≤ MAX_TIMESTAMP - TSBPD_WRAP_PERIOD)
    (set : StaysSet (sentAt time rtt recv) n) (first : 1 ≤ k) (hk : k < n) :
    SampleCorrect time rtt recv k ↔ ¬ Unwrap.FirstPastWindow period TSBPD_WRAP_PERIOD time k := by
  obtain ⟨k, rfl⟩ : ∃ j, k = j + 1 := ⟨k - 1, by omega⟩
  have follows := base_follows (k := k) _ (set.mono hk.le)
  obtain ⟨value, fed, -⟩ := onSample_set (set (k + 1) first hk) (sentAt time rtt recv (k + 1)) _
    follows.flag
  change _ = (before (sentAt time rtt recv) (k + 1)).driftUs (UInt32.ofNat (time (k + 1)))
    (rtt (k + 1)) (recv (k + 1)) at value
  change _ = (DriftTracer.update _ ((before (sentAt time rtt recv) (k + 1)).driftUs
    (UInt32.ofNat (time (k + 1))) (rtt (k + 1)) (recv (k + 1)))).2 at fed
  rw [driftUs_eq paced start set hk] at value fed
  rw [← paced.commits_iff room (clear_of_start start) hk]
  unfold SampleCorrect
  dsimp only
  rw [value, fed]
  constructor
  · intro right commits
    have equal := right.1
    rw [if_pos commits, trueSample] at equal
    have := countMicroseconds_lt (t := recv (k + 1) - (recv 0 - microsecondsFrom (time 0) +
      microsecondsFrom (correction (sentAt time rtt recv) (k + 1)) +
      microsecondsFrom (time (k + 1)))) (u := _ + microsecondsFrom period)
      (Int.add_le_add_left (by decide) _)
    omega
  · intro clear
    rw [if_neg clear, Int.add_zero]
    exact ⟨rfl, rfl⟩

theorem sample_correct_before_commit :
    SampleCorrect (sendTimes (period - 50000000)) (fun _ => 40000)
        (recvTimes (period - 50000000)) 3 ↔
      ¬ Unwrap.FirstPastWindow period TSBPD_WRAP_PERIOD (sendTimes (period - 50000000)) 3 :=
  sample_correct_iff (sendTimes_paced _ 6) (by decide)
    (show StaysSet _ 6 by unfold StaysSet; decide +kernel) (by decide) (by decide)

/-- The fifth call of a run that starts 50 seconds before a wrap commits the turn:
its sample is one turn too large. -/
theorem sample_wrong_at_commit :
    Unwrap.Paced TSBPD_WRAP_PERIOD (sendTimes (period - 50000000)) 5 ∧
      sendTimes (period - 50000000) 0 % period ≤ MAX_TIMESTAMP - TSBPD_WRAP_PERIOD ∧
      StaysSet (wrapRun 50000000) 5 ∧
      ¬ SampleCorrect (sendTimes (period - 50000000)) (fun _ => 40000)
        (recvTimes (period - 50000000)) 4 ∧
      ((before (wrapRun 50000000) 4).onSample (wrapRun 50000000 4)).1 = period :=
  ⟨sendTimes_paced _ 5, by decide, by unfold StaysSet; decide +kernel,
    fun right => absurd right.1 (by decide +kernel), by decide +kernel⟩

end DriftTracing.Source.Tsbpd
