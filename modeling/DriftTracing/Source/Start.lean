import DriftTracing.Source.Packet
import DriftTracing.Source.Path
import DriftTracing.Source.Tsbpd

/-!
# The ACK exchange

app/start.cpp:23-194. The global variables are one record; a function that reads a
clock gets the reading. The subtraction under `abs` is exact and the result is cut
to `int`: where the source's would overflow its behaviour is undefined.
-/
namespace DriftTracing.Source

structure Config where
  compensateRtt : Bool := false
  deriving DecidableEq, Repr

structure Globals where
  path : PathMetrics := {}
  tsbpd : Tsbpd := {}
  startTimeStd : Int := epoch
  startTimeSys : Int := epoch
  deriving DecidableEq

/-- The arguments of `stats_logger::trace`, in the source's order. -/
structure TraceRow where
  elapsedStd : Int
  elapsedSys : Int
  ackackTimestampStd : UInt32
  ackackTimestampSys : UInt32
  rttSys : Int32
  rttStd : Int32
  rttStdRma : Int32
  rttStdVar : Int32
  driftSampleStd : Int
  drift : Int
  overdrift : Int
  tsbpdBase : Int
  deriving DecidableEq, Repr

def getTimestampStd (g : Globals) (now : Int) : UInt32 :=
  UInt32.ofInt (countMicroseconds (now - g.startTimeStd))

def getTimestampSys (g : Globals) (now : Int) : UInt32 :=
  UInt32.ofInt (countMicroseconds (now - g.startTimeSys))

def mtuSize : Nat := 1500

/-- The ACK `ack_sending_loop` builds with the number `ackno`. -/
def ackPacket (g : Globals) (ackno : UInt32) (now : Int) : PktAck :=
  let pkt := PktAck.ofBase (.ofView ⟨List.replicate mtuSize 0, mtuSize⟩)
  let pkt : PktAck := ⟨pkt.setControlType .ack⟩
  let pkt : PktAck := ⟨pkt.setTimestamp (getTimestampStd g now)⟩
  let pkt := pkt.setAckno ackno
  if g.path.rtt ≠ 0 then (pkt.setRtt g.path.rtt.toUInt32).setRttvar g.path.rttVar.toUInt32
  else pkt

/-- The record `ack_sending_loop` keeps of an ACK that was sent in full. -/
def storeAck (g : Globals) (pkt : PktAck) (sendTimeStd sendTimeSys : Int) : Globals :=
  let ackRecords :=
    g.path.ackRecords.store pkt.ackno.toInt32 pkt.ackseqno.toInt32 sendTimeStd sendTimeSys
  { g with path.ackRecords := ackRecords }

/-- The bytes `on_ctrl_ack` sends. -/
def onCtrlAck (g : Globals) (ackpkt : PktAck) (nowStd nowSys : Int) : List UInt8 :=
  let pkt := PktAckack.ofBase (.ofView ⟨List.replicate 40 0, 40⟩)
  let pkt : PktAckack := ⟨pkt.setControlType .ackack⟩
  let pkt : PktAckack := ⟨pkt.setTimestamp (getTimestampStd g nowStd)⟩
  let pkt := pkt.setAckno ackpkt.ackno
  let pkt := pkt.setTimestampSys (getTimestampSys g nowSys)
  pkt.constBuf

/-- The RTT and its variance, after a measurement. -/
def PathMetrics.addRtt (p : PathMetrics) (rttStd : Int32) : PathMetrics :=
  if p.rtt = 0 then
    { p with rtt := rttStd, rttVar := rttStd / 2 }
  else
    { p with
      rttVar := avgRma 4 p.rttVar (toInt (rttStd.toInt - p.rtt.toInt).natAbs)
      rtt := avgRma 8 p.rtt rttStd }

def onCtrlAckack (cfg : Config) (g : Globals) (ackpkt : PktAckack)
    (recvTimeStd recvTimeSys : Int) : TraceRow × Globals :=
  let acked := g.path.ackRecords.acknowledge ackpkt.ackno.toInt32 recvTimeStd recvTimeSys
  let rttPair := acked.1
  let path := { g.path with ackRecords := acked.2 }.addRtt rttPair.rttStd
  let sampled := g.tsbpd.onAckack ackpkt.timestamp
    (if cfg.compensateRtt then rttPair.rttStd else 0) recvTimeStd
  let tsbpd := sampled.2
  ({ elapsedStd := recvTimeStd - g.startTimeStd
     elapsedSys := recvTimeSys - g.startTimeSys
     ackackTimestampStd := ackpkt.timestamp
     ackackTimestampSys := ackpkt.timestampSys
     rttSys := rttPair.rttSys
     rttStd := rttPair.rttStd
     rttStdRma := path.rtt
     rttStdVar := path.rttVar
     driftSampleStd := sampled.1
     drift := tsbpd.drift
     overdrift := tsbpd.overdrift
     tsbpdBase := tsbpd.getPktTimeBase ackpkt.timestamp },
    { g with path, tsbpd })

theorem PathMetrics.addRtt_ackRecords (p : PathMetrics) (rttStd : Int32) :
    (p.addRtt rttStd).ackRecords = p.ackRecords := by
  unfold addRtt
  split
  · rfl
  · rfl

theorem onCtrlAckack_ackRecords (cfg : Config) (g : Globals) (ackpkt : PktAckack) (std sys : Int) :
    (onCtrlAckack cfg g ackpkt std sys).2.path.ackRecords =
      (g.path.ackRecords.acknowledge ackpkt.ackno.toInt32 std sys).2 :=
  PathMetrics.addRtt_ackRecords ..

/-- What `ack_reply_loop` works on: the globals, the destination of the socket, and
the receive buffer it reuses. No address stands for `dst_addr().empty()`. -/
structure ReplyLoop (Addr : Type) where
  globals : Globals
  dstAddr : Option Addr
  buffer : List UInt8
  deriving DecidableEq

/-- The clock readings of one iteration. -/
structure Readings where
  recvTimeStd : Int
  recvTimeSys : Int
  replyTimeStd : Int
  replyTimeSys : Int
  deriving DecidableEq, Repr

/-- What the loop takes the received bytes for. -/
inductive PktKind where
  | empty | notCtrl
  | ctrl (type : CtrlType)
  deriving DecidableEq, Repr

/-- What an iteration shows outside: the classification, the datagram it sends and
the row it traces. -/
structure Reaction (Addr : Type) where
  kind : PktKind
  reply : Option (Addr × List UInt8) := none
  row : Option TraceRow := none
  deriving DecidableEq

/-- `recvfrom` writes the datagram, cut to the buffer, to the front of the buffer. -/
def recvInto (buffer datagram : List UInt8) : Nat × List UInt8 :=
  let received := datagram.take buffer.length
  (received.length, received ++ buffer.drop received.length)

/-- The part of an iteration behind the check for zero bytes. -/
def handlePkt {Addr : Type} (cfg : Config) (l : ReplyLoop Addr) (pkt : PktBase) (srcAddr : Addr)
    (t : Readings) : Reaction Addr × ReplyLoop Addr :=
  if !pkt.isCtrl then ({ kind := .notCtrl }, l)
  else
    match pkt.controlType with
    | .ack =>
      let dstAddr := l.dstAddr.getD srcAddr
      let reply := onCtrlAck l.globals (.ofBase pkt) t.replyTimeStd t.replyTimeSys
      ({ kind := .ctrl .ack, reply := some (dstAddr, reply) }, { l with dstAddr := some dstAddr })
    | .ackack =>
      let (row, globals) := onCtrlAckack cfg l.globals (.ofBase pkt) t.recvTimeStd t.recvTimeSys
      ({ kind := .ctrl .ackack, row := some row }, { l with globals })
    | type => ({ kind := .ctrl type }, l)

/-- One iteration of `ack_reply_loop`. -/
def ackReplyLoop {Addr : Type} (cfg : Config) (l : ReplyLoop Addr) (datagram : List UInt8)
    (srcAddr : Addr) (t : Readings) : Reaction Addr × ReplyLoop Addr :=
  let (bytesRead, buffer) := recvInto l.buffer datagram
  let l := { l with buffer }
  if bytesRead = 0 then ({ kind := .empty }, l)
  else handlePkt cfg l (.ofView ⟨buffer, bytesRead⟩) srcAddr t

end DriftTracing.Source
