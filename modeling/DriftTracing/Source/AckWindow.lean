import DriftTracing.Source.Clock

/-!
# The window of ACK records

app/ack_window.hpp. The template parameter `SIZE` is the index of the type. The
indices are natural numbers, the end of a search is an `int`: that of the second loop is
a `size_t` cut to `int`. A search loop with an early return is the first hit of the index
range it runs over.
-/
namespace DriftTracing.Source

def SRT_SEQNO_NONE : Int32 := -1

structure Entry where
  ackno : Int32
  pktseqno : Int32
  sendtimeStd : Int
  sendtimeSys : Int
  deriving DecidableEq, Repr

/-- A value-initialised record. -/
def Entry.zero : Entry := ⟨0, 0, epoch, epoch⟩

structure RttPair where
  rttStd : Int32
  rttSys : Int32
  deriving DecidableEq, Repr

/-- The pair returned for an ACK number without a record. -/
def RttPair.none : RttPair := ⟨-1, -1⟩

/-- `(int) duration_cast<microseconds>(recv - sent).count()` on both clocks. -/
def Entry.rtt (e : Entry) (recvTimeStd recvTimeSys : Int) : RttPair :=
  ⟨toInt (countMicroseconds (recvTimeStd - e.sendtimeStd)),
    toInt (countMicroseconds (recvTimeSys - e.sendtimeSys))⟩

structure AckWindow (size : Nat) where
  records : Vector Entry size
  latestIdx : Nat
  oldestIdx : Nat
  deriving DecidableEq

namespace AckWindow

variable {size : Nat}

/-- `records_[i]`. -/
def record (w : AckWindow size) (i : Nat) : Entry := w.records[i]?.getD Entry.zero

/-- `records_[i].ackno = ackno`. -/
def setAckno (w : AckWindow size) (i : Nat) (ackno : Int32) : AckWindow size :=
  { w with records := w.records.setIfInBounds i { w.record i with ackno := ackno } }

/-- The constructor: value-initialised records, the first one marked unused. -/
def fresh (size : Nat) : AckWindow size :=
  AckWindow.setAckno ⟨Vector.replicate size Entry.zero, 0, 0⟩ 0 SRT_SEQNO_NONE

def store (w : AckWindow size) (ackno pktseqno : Int32)
    (sendTimeStd sendTimeSys : Int) : AckWindow size :=
  let records := w.records.setIfInBounds w.latestIdx ⟨ackno, pktseqno, sendTimeStd, sendTimeSys⟩
  let latestIdx := (w.latestIdx + 1) % size
  let oldestIdx := if latestIdx = w.oldestIdx then (w.oldestIdx + 1) % size else w.oldestIdx
  { records, latestIdx, oldestIdx }

/-- The newest record was acknowledged: both indices restart at the first slot. -/
def reset (w : AckWindow size) : AckWindow size :=
  AckWindow.setAckno { w with latestIdx := 0, oldestIdx := 0 } 0 SRT_SEQNO_NONE

/-- `for (int i = start; i < n; ++i) if (hit(i)) ...`: the first index that hits. -/
def firstIndex (start : Nat) (n : Int) (hit : Nat → Bool) : Option Nat :=
  (List.range' start (n.toNat - start)).find? hit

/-- `int n = latest_idx + SIZE`: the sum is a `size_t`. -/
def searchEnd (w : AckWindow size) : Int := (toInt (w.latestIdx + size)).toInt

def acknowledge (w : AckWindow size) (ackno : Int32)
    (recvTimeStd recvTimeSys : Int) : RttPair × AckWindow size :=
  if w.oldestIdx ≤ w.latestIdx then
    -- the head has not exceeded the physical boundary of the window
    match firstIndex w.oldestIdx w.latestIdx fun i => ackno == (w.record i).ackno with
    | some i =>
      ((w.record i).rtt recvTimeStd recvTimeSys,
        if i + 1 = w.latestIdx then w.reset
        else { w with oldestIdx := (i + 1) % size })
    | none => (RttPair.none, w)
  else
    -- the head is behind the tail
    match firstIndex w.oldestIdx w.searchEnd
        fun j => ackno == (w.record (j % size)).ackno with
    | some k =>
      let j := k % size
      ((w.record j).rtt recvTimeStd recvTimeSys,
        if j = w.latestIdx then w.reset
        else { w with oldestIdx := (j + 1) % size })
    | none => (RttPair.none, w)

/-- One call of the public interface. -/
inductive Call where
  | store (ackno pktseqno : Int32) (sendTimeStd sendTimeSys : Int)
  | acknowledge (ackno : Int32) (recvTimeStd recvTimeSys : Int)
  deriving DecidableEq, Repr

/-- Perform a call; `store` returns nothing. -/
def call (w : AckWindow size) : Call → Option RttPair × AckWindow size
  | .store ackno pktseqno std sys => (none, w.store ackno pktseqno std sys)
  | .acknowledge ackno std sys =>
    let r := w.acknowledge ackno std sys
    (some r.1, r.2)

end AckWindow

end DriftTracing.Source
