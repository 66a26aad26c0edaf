import DriftTracing.Guarantees.AckWindowFifo
import DriftTracing.Guarantees.TimeBase
import DriftTracing.Source.Start

/-!
# Runs of `on_ctrl_ackack`, row by row

A round is everything up to and including one ACKACK: the ACK records stored since
the one before, and the ACKACK with its reception times. Every interleaving of stores
and ACKACKs is a sequence of rounds, and every round traces one row. The smoothed RTT
of a run depends on the RTTs of its rows only, and its time base is the one of a
sequence of `tsbpd::on_ackack` calls.
-/
namespace DriftTracing.Source.Globals
open DriftTracing.Lib

structure Round where
  stored : List Entry
  ackpkt : PktAckack
  recvTimeStd : Int
  recvTimeSys : Int
  deriving DecidableEq

def storeAll (g : Globals) (records : List Entry) : Globals :=
  let ackRecords := records.foldl
    (fun w e => w.store e.ackno e.pktseqno e.sendtimeStd e.sendtimeSys) g.path.ackRecords
  { g with path.ackRecords := ackRecords }

/-- Store the records of a round, and handle its ACKACK. -/
def receive (cfg : Config) (g : Globals) (r : Round) : TraceRow × Globals :=
  onCtrlAckack cfg (g.storeAll r.stored) r.ackpkt r.recvTimeStd r.recvTimeSys

/-- The globals before round number `k`. -/
def beforeRound (cfg : Config) (g : Globals) (rounds : Nat → Round) (k : Nat) : Globals :=
  Runs.before (receive cfg) g rounds k

/-- The row that round number `k` traces. -/
def row (cfg : Config) (g : Globals) (rounds : Nat → Round) (k : Nat) : TraceRow :=
  (receive cfg (beforeRound cfg g rounds k) (rounds k)).1

/-- The arguments round number `k` passes to `tsbpd::on_ackack`. -/
def samples (cfg : Config) (g : Globals) (rounds : Nat → Round) (k : Nat) : Tsbpd.Sample :=
  ⟨(rounds k).ackpkt.timestamp, if cfg.compensateRtt then (row cfg g rounds k).rttStd else 0,
    (rounds k).recvTimeStd⟩

variable {cfg : Config} {g : Globals} {rounds : Nat → Round} {k : Nat}

@[simp] theorem samples_timestampUs :
    (samples cfg g rounds k).timestampUs = (rounds k).ackpkt.timestamp := rfl

@[simp] theorem samples_recvTimeStd :
    (samples cfg g rounds k).recvTimeStd = (rounds k).recvTimeStd := rfl

/-- With compensation the time base is given the RTT of the row. -/
theorem samples_rttUs_compensated (compensated : cfg.compensateRtt = true) :
    (samples cfg g rounds k).rttUs = (row cfg g rounds k).rttStd := by
  simp [samples, compensated]

theorem samples_rttUs_uncompensated (uncompensated : cfg.compensateRtt = false) :
    (samples cfg g rounds k).rttUs = 0 := by
  simp [samples, uncompensated]

/-- Half the change of the RTT is taken out of the samples if the run compensates. -/
theorem samples_halfChange (k : Nat) :
    ((samples cfg g rounds k).rttUs.toInt - (samples cfg g rounds 0).rttUs.toInt).tdiv 2 =
      if cfg.compensateRtt then
        ((row cfg g rounds k).rttStd.toInt - (row cfg g rounds 0).rttStd.toInt).tdiv 2
      else 0 := by
  cases compensate : cfg.compensateRtt with
  | true =>
    rw [samples_rttUs_compensated compensate, samples_rttUs_compensated compensate, if_pos rfl]
  | false =>
    rw [samples_rttUs_uncompensated compensate, samples_rttUs_uncompensated compensate,
      if_neg Bool.false_ne_true]
    rfl

theorem beforeRound_succ :
    beforeRound cfg g rounds (k + 1) =
      (receive cfg (beforeRound cfg g rounds k) (rounds k)).2 := rfl

theorem beforeRound_startTimeStd (k : Nat) :
    (beforeRound cfg g rounds k).startTimeStd = g.startTimeStd := by
  induction k with
  | zero => rfl
  | succ k ih => exact ih

theorem row_elapsedStd (k : Nat) :
    (row cfg g rounds k).elapsedStd = (rounds k).recvTimeStd - g.startTimeStd := by
  rw [← @beforeRound_startTimeStd cfg g rounds k]
  rfl

/-- The averages do not depend on the records. -/
theorem addRtt_withRecords (p : PathMetrics) (w : AckWindow 1024) (rttStd : Int32) :
    ({ p with ackRecords := w }.addRtt rttStd).rtt = (p.addRtt rttStd).rtt ∧
      ({ p with ackRecords := w }.addRtt rttStd).rttVar = (p.addRtt rttStd).rttVar := by
  unfold PathMetrics.addRtt
  split
  · exact ⟨rfl, rfl⟩
  · exact ⟨rfl, rfl⟩

/-- A round takes the RTT of its row into the averages. -/
theorem path_succ :
    (beforeRound cfg g rounds (k + 1)).path.rtt =
        ((beforeRound cfg g rounds k).path.addRtt (row cfg g rounds k).rttStd).rtt ∧
      (beforeRound cfg g rounds (k + 1)).path.rttVar =
        ((beforeRound cfg g rounds k).path.addRtt (row cfg g rounds k).rttStd).rttVar := by
  rw [beforeRound_succ]
  exact addRtt_withRecords (beforeRound cfg g rounds k).path _ _

theorem tsbpd_succ :
    (row cfg g rounds k).driftSampleStd =
        ((beforeRound cfg g rounds k).tsbpd.onSample (samples cfg g rounds k)).1 ∧
      (beforeRound cfg g rounds (k + 1)).tsbpd =
        ((beforeRound cfg g rounds k).tsbpd.onSample (samples cfg g rounds k)).2 :=
  ⟨rfl, rfl⟩

/-- The time base of a run is that of the calls its rounds make. -/
theorem beforeRound_tsbpd (start : g.tsbpd = {}) (k : Nat) :
    (beforeRound cfg g rounds k).tsbpd = Tsbpd.before (samples cfg g rounds) k := by
  induction k with
  | zero => exact start
  | succ k ih => rw [tsbpd_succ.2, ih, Tsbpd.before_succ]

/-- What a row says about the time base: the sample, and the state after the call. -/
theorem row_tsbpd (start : g.tsbpd = {}) (k : Nat) :
    (row cfg g rounds k).driftSampleStd =
        ((Tsbpd.before (samples cfg g rounds) k).onSample (samples cfg g rounds k)).1 ∧
      (row cfg g rounds k).drift = (Tsbpd.before (samples cfg g rounds) (k + 1)).drift ∧
      (row cfg g rounds k).overdrift = (Tsbpd.before (samples cfg g rounds) (k + 1)).overdrift ∧
      (row cfg g rounds k).tsbpdBase =
        (Tsbpd.before (samples cfg g rounds) (k + 1)).getPktTimeBase
          (rounds k).ackpkt.timestamp := by
  rw [← beforeRound_tsbpd start, ← beforeRound_tsbpd start]
  exact ⟨rfl, rfl, rfl, rfl⟩

theorem storeAll_inBounds (bounds : g.path.ackRecords.InBounds) (records : List Entry) :
    (g.storeAll records).path.ackRecords.InBounds := by
  change (records.foldl _ g.path.ackRecords).InBounds
  generalize g.path.ackRecords = w at bounds ⊢
  induction records generalizing w with
  | nil => exact bounds
  | cons e es ih => exact ih _ (AckWindow.store_inBounds bounds ..)

theorem beforeRound_inBounds (bounds : g.path.ackRecords.InBounds) (k : Nat) :
    (beforeRound cfg g rounds k).path.ackRecords.InBounds := by
  induction k with
  | zero => exact bounds
  | succ k ih =>
    rw [beforeRound_succ, receive, onCtrlAckack_ackRecords]
    exact (AckWindow.call_refines (storeAll_inBounds ih _)
      (.acknowledge (rounds k).ackpkt.ackno.toInt32 _ _)).2.1

/-- The record that the ACKACK of a round finds, and the newer ones it leaves live. -/
def found (g : Globals) (r : Round) : Option (Entry × List Entry) :=
  BoundedFifo.takeThrough (fun e => r.ackpkt.ackno.toInt32 == e.ackno)
    (g.storeAll r.stored).path.ackRecords.held

theorem receive_found {g : Globals} (bounds : g.path.ackRecords.InBounds) {r : Round} {e : Entry}
    {newer : List Entry} (hit : g.found r = some (e, newer)) :
    (receive cfg g r).1.rttStd = toInt (countMicroseconds (r.recvTimeStd - e.sendtimeStd)) ∧
      (receive cfg g r).2.path.ackRecords.held = newer := by
  have spec := AckWindow.acknowledge_held (storeAll_inBounds bounds r.stored)
    r.ackpkt.ackno.toInt32 r.recvTimeStd r.recvTimeSys
  rw [found] at hit
  rw [hit] at spec
  obtain ⟨result, -, rest⟩ := spec
  rw [receive, onCtrlAckack_ackRecords]
  exact ⟨congrArg RttPair.rttStd result, rest⟩

/-- An ACKACK of 20 bytes with a number and a timestamp. -/
def ackackOf (ackno timestamp : UInt32) : PktAckack :=
  let zeros := PktAckack.ofBase (.ofView ⟨List.replicate 20 0, 20⟩)
  ⟨(zeros.setAckno ackno).setTimestamp timestamp⟩

theorem ackackOf_ackno (ackno timestamp : UInt32) : (ackackOf ackno timestamp).ackno = ackno := by
  simp only [ackackOf, PktAckack.ackno, PktAckack.setAckno, PktBase.setTimestamp]
  rw [PktBase.getField_setField_disjoint]
  · exact PktBase.ofNat_getField_setField _ rfl ackno (by decide)
  · rw [PktBase.length_setField]
    decide
  · decide

theorem ackackOf_timestamp (ackno timestamp : UInt32) :
    (ackackOf ackno timestamp).timestamp = timestamp := by
  apply PktBase.ofNat_getField_setField _ rfl timestamp
  simp only [PktAckack.setAckno, PktBase.length_setField]
  decide

/-- A round that stores one record, which its ACKACK finds. -/
def ownRound (timestamp : UInt32) (sent recv : Int) : Round :=
  ⟨[⟨1, 0, sent, sent⟩], ackackOf 1 timestamp, recv, recv⟩

/-- The stored record is the only one in an empty window. -/
theorem found_ownRound {g : Globals} (bounds : g.path.ackRecords.InBounds)
    (empty : g.path.ackRecords.held = []) (timestamp : UInt32) (sent recv : Int) :
    g.found (ownRound timestamp sent recv) = some (⟨1, 0, sent, sent⟩, []) := by
  have stored : (g.storeAll [⟨1, 0, sent, sent⟩]).path.ackRecords.held = _ :=
    AckWindow.store_held bounds 1 0 sent sent
  rw [found, ownRound, stored, empty, ackackOf_ackno]
  rfl

/-- Rounds that find their own records. -/
def ownRounds (timestamp : Nat → UInt32) (sent recv : Nat → Int) (k : Nat) : Round :=
  ownRound (timestamp k) (sent k) (recv k)

variable {timestamp : Nat → UInt32} {sent recv : Nat → Int}

theorem fresh_window (fresh : g.path.ackRecords = AckWindow.fresh 1024) :
    g.path.ackRecords.InBounds ∧ g.path.ackRecords.held = [] := by
  rw [fresh]
  exact ⟨AckWindow.fresh_inBounds (by decide) (by decide), AckWindow.fresh_held 1024⟩

theorem ownRounds_held (fresh : g.path.ackRecords = AckWindow.fresh 1024) (k : Nat) :
    (beforeRound cfg g (ownRounds timestamp sent recv) k).path.ackRecords.held = [] := by
  obtain ⟨bounds, empty⟩ := fresh_window fresh
  induction k with
  | zero => exact empty
  | succ k ih =>
    have inside := @beforeRound_inBounds cfg g (ownRounds timestamp sent recv) bounds k
    rw [beforeRound_succ, ownRounds]
    exact (receive_found inside (found_ownRound inside ih ..)).2

theorem found_ownRounds (fresh : g.path.ackRecords = AckWindow.fresh 1024) (k : Nat) :
    (beforeRound cfg g (ownRounds timestamp sent recv) k).found
        (ownRounds timestamp sent recv k) =
      some (⟨1, 0, sent k, sent k⟩, []) :=
  found_ownRound (beforeRound_inBounds (fresh_window fresh).1 k) (ownRounds_held fresh k) ..

theorem ownRounds_rttStd (fresh : g.path.ackRecords = AckWindow.fresh 1024) (k : Nat) :
    (row cfg g (ownRounds timestamp sent recv) k).rttStd =
      toInt (countMicroseconds (recv k - sent k)) := by
  have inside := @beforeRound_inBounds cfg g (ownRounds timestamp sent recv)
    (fresh_window fresh).1 k
  exact (receive_found inside (found_ownRounds fresh k)).1

theorem ownRounds_timestamp (k : Nat) :
    (samples cfg g (ownRounds timestamp sent recv) k).timestampUs = timestamp k :=
  ackackOf_timestamp 1 (timestamp k)

end DriftTracing.Source.Globals
