import DriftTracing.Guarantees.AckWindowFifo
import DriftTracing.Source.Start

/-!
# ACKACKs without a record

`acknowledge` answers `{-1, -1}` for a number without a live record, and
`on_ctrl_ackack` takes the -1 for a measured RTT. This module compares a run of
stores and ACKACKs with the run in which every unmatched ACKACK is left out. The
estimates agree throughout exactly when each unmatched ACKACK arrives in a state
on which an RTT of -1 has no effect.
-/
namespace DriftTracing.Source.Globals
open DriftTracing.Lib

/-- What happens to the globals: the sender stores a record, or the receiver
handles an ACKACK. -/
inductive Op where
  | store (ackno pktseqno : Int32) (sendTimeStd sendTimeSys : Int)
  | ackack (ackpkt : PktAckack) (recvTimeStd recvTimeSys : Int)
  deriving DecidableEq

def perform (cfg : Config) (g : Globals) : Op → Option TraceRow × Globals
  | .store ackno pktseqno std sys =>
    (none, { g with path.ackRecords := g.path.ackRecords.store ackno pktseqno std sys })
  | .ackack ackpkt std sys =>
    let (row, g) := onCtrlAckack cfg g ackpkt std sys
    (some row, g)

/-- The globals after a run of the program. -/
def after (cfg : Config) (startStd startSys : Int) (ops : List Op) : Globals :=
  (Runs.run (perform cfg) { startTimeStd := startStd, startTimeSys := startSys } ops).2

/-- An ACKACK whose number has no live record. -/
def unmatched (g : Globals) : Op → Bool
  | .store .. => false
  | .ackack ackpkt _ _ => !g.path.ackRecords.held.any fun e => ackpkt.ackno.toInt32 == e.ackno

/-- The run without its unmatched ACKACKs. -/
def matchedOnly (cfg : Config) (startStd startSys : Int) (ops : List Op) : List Op :=
  Runs.kept (perform cfg) unmatched { startTimeStd := startStd, startTimeSys := startSys } ops

/-- The same smoothed RTT and variance and, under RTT compensation, the same drift
tracer and time base. -/
def SameEstimates (cfg : Config) (g g' : Globals) : Prop :=
  g.path.rtt = g'.path.rtt ∧ g.path.rttVar = g'.path.rttVar ∧
    (cfg.compensateRtt = true →
      g.tsbpd.driftTracer = g'.tsbpd.driftTracer ∧ g.tsbpd.timeBase = g'.tsbpd.timeBase)

theorem SameEstimates.symm {cfg : Config} {g g' : Globals} (h : SameEstimates cfg g g') :
    SameEstimates cfg g' g :=
  ⟨h.1.symm, h.2.1.symm, fun compensate =>
    ⟨(h.2.2 compensate).1.symm, (h.2.2 compensate).2.symm⟩⟩

theorem SameEstimates.trans {cfg : Config} {g g' g'' : Globals} (h : SameEstimates cfg g g')
    (h' : SameEstimates cfg g' g'') : SameEstimates cfg g g'' :=
  ⟨h.1.trans h'.1, h.2.1.trans h'.2.1, fun compensate =>
    ⟨(h.2.2 compensate).1.trans (h'.2.2 compensate).1,
      (h.2.2 compensate).2.trans (h'.2.2 compensate).2⟩⟩

/-- An RTT of -1 leaves the averages alone: it is less than 8 above the smoothed
RTT, and its distance less than 4 above the variance, neither being below. -/
def RttInert (p : PathMetrics) : Prop :=
  -8 ≤ p.rtt.toInt ∧ p.rtt.toInt ≤ -1 ∧
    -4 - p.rtt.toInt ≤ p.rttVar.toInt ∧ p.rttVar.toInt ≤ -1 - p.rtt.toInt

/-- The ACKACK sets the time base, and sets it to the epoch it already is. -/
def BaseInert (t : Tsbpd) (timestamp : UInt32) (recvTimeStd : Int) : Prop :=
  t.timeBase = epoch ∧ recvTimeStd = microsecondsFrom timestamp.toNat

/-- An unmatched ACKACK has no effect on the estimates of this state. -/
def Inert (cfg : Config) (g : Globals) : Op → Prop
  | .store .. => True
  | .ackack ackpkt std _ => RttInert g.path ∧
      (cfg.compensateRtt = true → BaseInert g.tsbpd ackpkt.timestamp std)

instance (p : PathMetrics) : Decidable (RttInert p) :=
  inferInstanceAs (Decidable (_ ∧ _ ∧ _ ∧ _))

theorem addRtt_none_eq_iff (p : PathMetrics) :
    (p.addRtt RttPair.none.rttStd).rtt = p.rtt ∧
      (p.addRtt RttPair.none.rttStd).rttVar = p.rttVar ↔ RttInert p := by
  have minus : RttPair.none.rttStd.toInt = -1 := by decide
  unfold PathMetrics.addRtt RttInert
  by_cases first : p.rtt = 0
  · rw [if_pos first, first]
    have zero : (0 : Int32).toInt = 0 := rfl
    rw [zero]
    constructor
    · intro same
      have measured : ¬RttPair.none.rttStd = 0 := by decide
      exact absurd same.1 measured
    · omega
  · rw [if_neg first]
    dsimp only
    rw [eight_eq_pow, four_eq_pow, avgRma_eq_old_iff (by decide), avgRma_eq_old_iff (by decide),
      minus]
    constructor
    · intro same
      obtain ⟨⟨low, high⟩, varLow, varHigh⟩ := same
      rw [toInt_toInt (by omega) (by omega)] at varLow varHigh
      omega
    · intro inert
      obtain ⟨low, high, varLow, varHigh⟩ := inert
      rw [toInt_toInt (by omega) (by omega)]
      omega

/-- Once the base is set every sample changes the tracer; before, the base changes
unless it is set to the epoch. -/
theorem onAckack_same_iff (t : Tsbpd) (timestamp : UInt32) (rttUs : Int32) (std : Int) :
    (t.onAckack timestamp rttUs std).2.driftTracer = t.driftTracer ∧
      (t.onAckack timestamp rttUs std).2.timeBase = t.timeBase ↔
      BaseInert t timestamp std := by
  by_cases unset : t.timeBase = epoch
  · rw [Tsbpd.onAckack_unset unset, unset, BaseInert]
    dsimp only
    constructor
    · intro same
      have equal := same.2
      unfold epoch at equal
      exact ⟨unset, by omega⟩
    · intro inert
      have equal := inert.2
      exact ⟨rfl, by unfold epoch; omega⟩
  · constructor
    · intro same
      have equal := same.1
      rw [Tsbpd.onAckack_driftTracer unset] at equal
      exact absurd (congrArg DriftTracer.driftSpan equal)
        (DriftTracer.update_driftSpan_ne (by decide) _ _)
    · exact fun inert => absurd inert.1 unset

theorem perform_inBounds {cfg : Config} {g : Globals} (bounds : g.path.ackRecords.InBounds)
    (op : Op) : (g.perform cfg op).2.path.ackRecords.InBounds := by
  cases op with
  | store ackno pktseqno std sys => exact AckWindow.store_inBounds bounds ..
  | ackack ackpkt std sys =>
    have window : (g.perform cfg (.ackack ackpkt std sys)).2.path.ackRecords = _ :=
      onCtrlAckack_ackRecords cfg g ackpkt std sys
    rw [window]
    exact (AckWindow.call_refines bounds (.acknowledge ackpkt.ackno.toInt32 std sys)).2.1

theorem after_inBounds (cfg : Config) (startStd startSys : Int) (ops : List Op) :
    (after cfg startStd startSys ops).path.ackRecords.InBounds := by
  unfold after
  refine Runs.run_invariant (I := fun g : Globals => g.path.ackRecords.InBounds) ?_ ?_ ops
  · exact fun _ op bounds => perform_inBounds bounds op
  · exact AckWindow.fresh_inBounds (by decide) (by decide)

/-- What `on_ctrl_ackack` does with a number that has no live record. -/
theorem onCtrlAckack_unmatched {cfg : Config} {g : Globals} (bounds : g.path.ackRecords.InBounds)
    {ackpkt : PktAckack} {std sys : Int} (missing : g.unmatched (.ackack ackpkt std sys) = true) :
    (onCtrlAckack cfg g ackpkt std sys).2 =
      { g with
        path := g.path.addRtt RttPair.none.rttStd
        tsbpd := (g.tsbpd.onAckack ackpkt.timestamp
          (if cfg.compensateRtt then RttPair.none.rttStd else 0) std).2 } := by
  have none_found : BoundedFifo.takeThrough (fun e => ackpkt.ackno.toInt32 == e.ackno)
      g.path.ackRecords.held = none := by
    rw [BoundedFifo.takeThrough_eq_none]
    simpa [unmatched] using missing
  have spec := AckWindow.acknowledge_held bounds ackpkt.ackno.toInt32 std sys
  rw [none_found] at spec
  rw [onCtrlAckack]
  dsimp only at spec ⊢
  rw [spec]

/-- Inert states are exactly those whose estimates an unmatched ACKACK leaves alone. -/
theorem sameEstimates_unmatched_iff {cfg : Config} {g : Globals}
    (bounds : g.path.ackRecords.InBounds) {op : Op} (missing : g.unmatched op = true) :
    SameEstimates cfg (g.perform cfg op).2 g ↔ Inert cfg g op := by
  cases op with
  | store ackno pktseqno std sys => exact absurd missing Bool.false_ne_true
  | ackack ackpkt std sys =>
    have performed : (g.perform cfg (.ackack ackpkt std sys)).2 =
        (onCtrlAckack cfg g ackpkt std sys).2 := rfl
    rw [performed, onCtrlAckack_unmatched bounds missing, SameEstimates, ← and_assoc,
      addRtt_none_eq_iff, onAckack_same_iff, Inert]

/-- The full run and the one without its unmatched ACKACKs, while these are inert:
they differ at most in the first RTT, and only as long as no base has been set. -/
structure Agrees (cfg : Config) (g g' : Globals) : Prop where
  bounds : g.path.ackRecords.InBounds
  path : g'.path = g.path
  tsbpd : cfg.compensateRtt = true → ∃ firstRttUs, g'.tsbpd = { g.tsbpd with firstRttUs } ∧
    (g.tsbpd.timeBase = epoch ∨ firstRttUs = g.tsbpd.firstRttUs)

theorem Agrees.sameEstimates {cfg : Config} {g g' : Globals} (h : Agrees cfg g g') :
    SameEstimates cfg g g' := by
  refine ⟨by rw [h.path], by rw [h.path], fun compensate => ?_⟩
  obtain ⟨firstRttUs, equal, -⟩ := h.tsbpd compensate
  rw [equal]
  exact ⟨rfl, rfl⟩

theorem addRtt_none_of_inert {p : PathMetrics} (inert : RttInert p) :
    p.addRtt RttPair.none.rttStd = p := by
  obtain ⟨rtt, rttVar⟩ := (addRtt_none_eq_iff p).mpr inert
  exact PathMetrics.ext rtt rttVar (p.addRtt_ackRecords _)

/-- While no base is set the first RTT is not used, and the call that sets the base
overwrites it. -/
theorem onAckack_firstRtt (t : Tsbpd) {firstRttUs : Int32}
    (h : t.timeBase = epoch ∨ firstRttUs = t.firstRttUs) (timestamp : UInt32) (rttUs : Int32)
    (std : Int) :
    ({ t with firstRttUs } : Tsbpd).onAckack timestamp rttUs std =
      t.onAckack timestamp rttUs std := by
  rcases h with unset | same
  · rw [Tsbpd.onAckack_unset unset, Tsbpd.onAckack_unset (t := { t with firstRttUs }) unset]
  · rw [same]

theorem Agrees.keep {cfg : Config} {g g' : Globals} (h : Agrees cfg g g') (op : Op) :
    Agrees cfg (g.perform cfg op).2 (g'.perform cfg op).2 := by
  obtain ⟨bounds, path, tsbpd⟩ := h
  cases op with
  | store ackno pktseqno std sys =>
    refine ⟨perform_inBounds bounds _, ?_, tsbpd⟩
    simp only [perform, path]
  | ackack ackpkt std sys =>
    refine ⟨perform_inBounds bounds _, ?_, fun compensate => ?_⟩
    · simp only [perform, onCtrlAckack, path]
    · obtain ⟨firstRttUs, equal, unused⟩ := tsbpd compensate
      refine ⟨_, ?_, Or.inr rfl⟩
      simp only [perform, onCtrlAckack, path, equal, onAckack_firstRtt g.tsbpd unused]

theorem Agrees.skip {cfg : Config} {g g' : Globals} (h : Agrees cfg g g') {op : Op}
    (missing : g.unmatched op = true) (inert : Inert cfg g op) :
    Agrees cfg (g.perform cfg op).2 g' := by
  cases op with
  | store ackno pktseqno std sys => exact absurd missing Bool.false_ne_true
  | ackack ackpkt std sys =>
    have performed : (g.perform cfg (.ackack ackpkt std sys)).2 =
        (onCtrlAckack cfg g ackpkt std sys).2 := rfl
    obtain ⟨bounds, path, tsbpd⟩ := h
    obtain ⟨rtt, base⟩ := inert
    rw [performed, onCtrlAckack_unmatched bounds missing, addRtt_none_of_inert rtt]
    refine ⟨bounds, path, fun compensate => ?_⟩
    obtain ⟨unset, atEpoch⟩ := base compensate
    obtain ⟨firstRttUs, equal, -⟩ := tsbpd compensate
    have still : std - microsecondsFrom ackpkt.timestamp.toNat = g.tsbpd.timeBase := by
      rw [unset, atEpoch]
      exact Int.sub_self _
    refine ⟨firstRttUs, ?_, Or.inl ?_⟩
    · dsimp only
      rw [Tsbpd.onAckack_unset unset, still, equal]
    · dsimp only
      rw [Tsbpd.onAckack_unset unset, still]
      exact unset

/-- Leaving out the unmatched ACKACKs of a run changes no estimate at any point of
it exactly when each of them arrives in an inert state. -/
theorem estimates_ignore_unmatched_iff (cfg : Config) (startStd startSys : Int) (ops : List Op) :
    (∀ pre, pre <+: ops → SameEstimates cfg (after cfg startStd startSys pre)
        (after cfg startStd startSys (matchedOnly cfg startStd startSys pre))) ↔
      ∀ pre op, pre ++ [op] <+: ops → (after cfg startStd startSys pre).unmatched op = true →
        Inert cfg (after cfg startStd startSys pre) op := by
  have start : Agrees cfg { startTimeStd := startStd, startTimeSys := startSys }
      { startTimeStd := startStd, startTimeSys := startSys } :=
    ⟨AckWindow.fresh_inBounds (by decide) (by decide), rfl, fun _ => ⟨_, rfl, Or.inr rfl⟩⟩
  constructor
  · intro same pre op hop missing
    have shorter := same pre ((List.prefix_append pre [op]).trans hop)
    have longer := same (pre ++ [op]) hop
    have left_out : matchedOnly cfg startStd startSys (pre ++ [op]) =
        matchedOnly cfg startStd startSys pre := by
      unfold after at missing
      rw [matchedOnly, Runs.kept_snoc, if_pos missing, List.append_nil, matchedOnly]
    have performed : after cfg startStd startSys (pre ++ [op]) =
        ((after cfg startStd startSys pre).perform cfg op).2 :=
      Runs.run_snoc_state ..
    rw [left_out, performed] at longer
    have bounds := after_inBounds cfg startStd startSys pre
    exact (sameEstimates_unmatched_iff bounds missing).mp (longer.trans shorter.symm)
  · intro inert pre hpre
    have keeps (g g' : Globals) (op : Op) (agrees : Agrees cfg g g')
        (_ : g.unmatched op = false) := agrees.keep op
    have skips (g g' : Globals) (op : Op) (agrees : Agrees cfg g g')
        (missing : g.unmatched op = true) (ok : Inert cfg g op) := agrees.skip missing ok
    exact (Runs.run_kept keeps skips start pre fun shorter op h =>
      inert shorter op (h.trans hpre)).sameEstimates

/-- The ACKACK that answers ACK 1. -/
def firstAckack : PktAckack :=
  .ofBase (.ofView ⟨onCtrlAck {} (ackPacket {} 1 1000000) 2000000 2000000, 20⟩)

/-- ACK 1 is stored, and its ACKACK arrives twice, the first time a millisecond later. -/
def duplicated : List Op :=
  [.store 1 0 1000000 1000000, .ackack firstAckack 2000000 2000000,
    .ackack firstAckack 2100000 2100000]

/-- The duplicate moves the smoothed RTT from 1000 to 874 microseconds. -/
theorem duplicate_changes_rtt :
    (after {} 0 0 duplicated).path.rtt = 874 ∧
      (after {} 0 0 (matchedOnly {} 0 0 duplicated)).path.rtt = 1000 ∧
      ¬ SameEstimates {} (after {} 0 0 duplicated)
        (after {} 0 0 (matchedOnly {} 0 0 duplicated)) :=
  ⟨by decide +kernel, by decide +kernel, fun same => absurd same.1 (by decide +kernel)⟩

end DriftTracing.Source.Globals
